import PlanCourier.Json.Basic
import PlanCourier.Real.Literal
import PlanCourier.Text.Digits

/-!
# What a scalar stands for

A plain scalar stands for nothing, a truth value, an integer or a real number if it is written like
one, and for its own text otherwise. Integers may have the base 16, 8 or 2 and up to 128 bits; a
decimal number with a needless zero in front is text. A tag can ask for one of the kinds.
-/

namespace PlanCourier.Yaml

open PlanCourier.Real
open Text (digitsIn)

def nullWords : List String := ["~", "null", "Null", "NULL"]

def truthWords : List (String × Bool) :=
  [("true", true), ("True", true), ("TRUE", true), ("false", false), ("False", false),
    ("FALSE", false)]

def specialWords : List String :=
  [".inf", ".Inf", ".INF", "+.inf", "+.Inf", "+.INF", "-.inf", "-.Inf", "-.INF", ".nan", ".NaN",
    ".NAN"]

/-- Whether digits start with a needless zero. -/
def isPadded : List Char → Bool
  | '0' :: c :: rest => (c :: rest).all Real.isDigit
  | _ => false

/-- The natural number that a text without sign stands for. -/
def magnitude? : List Char → Option Nat
  | '0' :: 'x' :: rest => digitsIn 16 rest
  | '0' :: 'o' :: rest => digitsIn 8 rest
  | '0' :: 'b' :: rest => digitsIn 2 rest
  | cs => if isPadded cs then none else digitsIn 10 cs

/-- The integer of 128 bits that a text stands for. -/
def integer? (cs : List Char) : Option Int :=
  let positive (n : Nat) : Option Int := if n < 1 <<< 128 then some n else none
  let negative (n : Nat) : Option Int := if n ≤ 1 <<< 127 then some (-n) else none
  match cs with
  | '-' :: rest => (magnitude? rest).bind negative
  | '+' :: rest => (magnitude? rest).bind positive
  | cs => (magnitude? cs).bind positive

/-- Whether a number, sign or not, starts with a needless zero. -/
def isPaddedNumber : List Char → Bool
  | '-' :: rest | '+' :: rest => isPadded rest
  | cs => isPadded cs

/-- The real number that a text stands for; a second sign makes it none. What is infinite or no
number stands for the greatest number: it is a real number, and more is never asked. -/
def real? (s : String) : Option Binary64 :=
  if specialWords.contains s then some .greatest
  else match s.toList with
    | '+' :: '-' :: _ | '+' :: '+' :: _ => none
    | cs => (Decimal.ofText? cs).bind Binary64.ofDecimal

def ofPlain (s : String) : Json :=
  if s.isEmpty || nullWords.contains s then .null
  else match truthWords.lookup s with
    | some b => .bool b
    | none =>
      match integer? s.toList with
      | some i => .ofInt i
      | none =>
        if isPaddedNumber s.toList then .text s
        else match real? s with
          | some x => .number (.real x)
          | none => .text s

/-- The kinds of scalars that a tag can ask for. -/
inductive ScalarKind where
  | null
  | truth
  | integer
  | real
  deriving DecidableEq, Repr

def kindTags : List (String × ScalarKind) :=
  [("tag:yaml.org,2002:null", .null), ("tag:yaml.org,2002:bool", .truth),
    ("tag:yaml.org,2002:int", .integer), ("tag:yaml.org,2002:float", .real)]

def ofKind? (s : String) : ScalarKind → Option Json
  | .null => if nullWords.contains s then some .null else none
  | .truth => (truthWords.lookup s).map .bool
  | .integer => (integer? s.toList).map .ofInt
  | .real => (real? s).map fun x => .number (.real x)

def tagText? (tag : List UInt8) : Option String := String.fromUTF8? ⟨tag.toArray⟩

/-- Whether the tag is of no known kind: it starts with an exclamation mark and is a text. -/
def isForeign (tag : List UInt8) : Bool := tag.head? == some 0x21 && (tagText? tag).isSome

/-- What a scalar stands for, if its tag allows it. -/
def ofScalar? (tag : Option (List UInt8)) (isPlain : Bool) (s : String) : Option Json :=
  let asWritten := if isPlain then ofPlain s else .text s
  match tag with
  | none => some asWritten
  | some tag =>
    if isForeign tag then none
    else if tag.head? == some 0x21 then some asWritten
    else
      match (tagText? tag).bind (List.lookup · kindTags) with
      | some kind => ofKind? s kind
      | none => some (.text s)

end PlanCourier.Yaml

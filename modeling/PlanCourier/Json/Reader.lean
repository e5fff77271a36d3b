import PlanCourier.Json.Basic

/-!
# Reading JSON texts

`Json.read?` reads a whole text as one value, with the members of objects in the order of the
text; `Json.ofText?` puts the value in its normal form. A text that is no JSON value has none. An
integer that fits 64 bits, signed or unsigned, is a whole number; every other number, `-0` too, is
the nearest real number, and one that is too great for a real number is no value.
-/

namespace PlanCourier.Json

open PlanCourier.Real

/-- The blanks between the parts of a JSON text. -/
def isGap (c : Char) : Bool := c == ' ' || c == '\n' || c == '\t' || c == '\r'

def skipGap (cs : List Char) : List Char := cs.dropWhile isGap

def hexDigit? (c : Char) : Option Nat :=
  if '0' ≤ c ∧ c ≤ '9' then some (c.toNat - 48)
  else if 'a' ≤ c ∧ c ≤ 'f' then some (c.toNat - 87)
  else if 'A' ≤ c ∧ c ≤ 'F' then some (c.toNat - 55)
  else none

def hexWord? (a b c d : Char) : Option Nat := do
  let a ← hexDigit? a
  let b ← hexDigit? b
  let c ← hexDigit? c
  let d ← hexDigit? d
  return ((a * 16 + b) * 16 + c) * 16 + d

def shortEscape? (c : Char) : Option Char :=
  match c with
  | '"' => some '"'
  | '\\' => some '\\'
  | '/' => some '/'
  | 'b' => some '\x08'
  | 'f' => some '\x0c'
  | 'n' => some '\n'
  | 'r' => some '\r'
  | 't' => some '\t'
  | _ => none

/-- The characters of a string, after its opening quote, and the text after its closing one. Two
escapes that form a surrogate pair give one character; half a pair is refused. -/
def readString : List Char → Option (List Char × List Char)
  | [] => none
  | '"' :: rest => some ([], rest)
  | '\\' :: 'u' :: a :: b :: c :: d :: rest =>
    match hexWord? a b c d with
    | none => none
    | some w =>
      if 0xD800 ≤ w ∧ w ≤ 0xDBFF then
        match rest with
        | '\\' :: 'u' :: e :: f :: g :: h :: rest =>
          match hexWord? e f g h with
          | none => none
          | some l =>
            if 0xDC00 ≤ l ∧ l ≤ 0xDFFF then
              (readString rest).map fun (s, rest) =>
                (Char.ofNat (0x10000 + (w - 0xD800) * 0x400 + (l - 0xDC00)) :: s, rest)
            else none
        | _ => none
      else if 0xDC00 ≤ w ∧ w ≤ 0xDFFF then none
      else (readString rest).map fun (s, rest) => (Char.ofNat w :: s, rest)
  | '\\' :: c :: rest =>
    match shortEscape? c with
    | none => none
    | some e => (readString rest).map fun (s, rest) => (e :: s, rest)
  | c :: rest =>
    if c.toNat < 0x20 ∨ c = '\\' then none
    else (readString rest).map fun (s, rest) => (c :: s, rest)

def digitsValue (cs : List Char) : Nat := cs.foldl (fun n c => n * 10 + (c.toNat - 48)) 0

/-- The digits at the start of a text, at least one, and the rest. -/
def readDigits (cs : List Char) : Option (List Char × List Char) :=
  match cs.takeWhile Char.isDigit with
  | [] => none
  | ds => some (ds, cs.dropWhile Char.isDigit)

/-- The digits before the point: a single zero, or digits that do not start with one. -/
def readWhole : List Char → Option (List Char × List Char)
  | '0' :: rest => some (['0'], rest)
  | cs => readDigits cs

/-- The digits after the point, if a point follows. -/
def readFraction : List Char → Option (Option (List Char) × List Char)
  | '.' :: rest => (readDigits rest).map fun (ds, rest) => (some ds, rest)
  | cs => some (none, cs)

def readExponent : List Char → Option (Option Int × List Char)
  | c :: rest =>
    if c = 'e' ∨ c = 'E' then
      match rest with
      | '-' :: rest =>
        (readDigits rest).map fun (ds, rest) => (some (-(digitsValue ds : Int)), rest)
      | '+' :: rest => (readDigits rest).map fun (ds, rest) => (some (digitsValue ds : Int), rest)
      | rest => (readDigits rest).map fun (ds, rest) => (some (digitsValue ds : Int), rest)
    else some (none, c :: rest)
  | [] => some (none, [])

/-- The number of the parts of a literal: an integer if it has neither fraction nor exponent and
fits 64 bits. -/
def numberOf (negative : Bool) (whole : List Char) (fraction : Option (List Char))
    (exponent : Option Int) : Option Number :=
  let n := digitsValue whole
  let fits : Bool := if negative then n != 0 && n ≤ 0x8000000000000000 else n ≤ 0xFFFFFFFFFFFFFFFF
  if fraction.isNone && exponent.isNone && fits then
    some (.whole (if negative then -(n : Int) else n))
  else
    let fr := fraction.getD []
    let d : Decimal := ⟨negative, digitsValue (whole ++ fr), exponent.getD 0 - fr.length⟩
    (Binary64.ofDecimal d).map .real

def readNumber (cs : List Char) : Option (Number × List Char) := do
  let (negative, cs) := match cs with
    | '-' :: rest => (true, rest)
    | cs => (false, cs)
  let (whole, cs) ← readWhole cs
  let (fraction, cs) ← readFraction cs
  let (exponent, cs) ← readExponent cs
  let n ← numberOf negative whole fraction exponent
  return (n, cs)

mutual

/-- A value at the start of a text, and the rest. Each call takes one of `fuel`, of which a text
needs no more than twice its length. -/
def readValue : Nat → List Char → Option (Json × List Char)
  | 0, _ => none
  | fuel + 1, cs =>
    match skipGap cs with
    | 'n' :: 'u' :: 'l' :: 'l' :: rest => some (.null, rest)
    | 't' :: 'r' :: 'u' :: 'e' :: rest => some (.bool true, rest)
    | 'f' :: 'a' :: 'l' :: 's' :: 'e' :: rest => some (.bool false, rest)
    | '"' :: rest => (readString rest).map fun (s, rest) => (.text (String.ofList s), rest)
    | '[' :: rest =>
      match skipGap rest with
      | ']' :: rest => some (.list [], rest)
      | rest => (readItems fuel rest).map fun (items, rest) => (.list items, rest)
    | '\x7b' :: rest =>
      match skipGap rest with
      | '\x7d' :: rest => some (.object [], rest)
      | rest => (readMembers fuel rest).map fun (ms, rest) => (.object ms, rest)
    | cs => (readNumber cs).map fun (n, rest) => (.number n, rest)

def readItems : Nat → List Char → Option (List Json × List Char)
  | 0, _ => none
  | fuel + 1, cs =>
    match readValue fuel cs with
    | none => none
    | some (v, rest) =>
      match skipGap rest with
      | ',' :: rest => (readItems fuel rest).map fun (items, rest) => (v :: items, rest)
      | ']' :: rest => some ([v], rest)
      | _ => none

/-- The members of an object, at least one, up to its end. -/
def readMembers : Nat → List Char → Option (List (String × Json) × List Char)
  | 0, _ => none
  | fuel + 1, cs =>
    match skipGap cs with
    | '"' :: rest =>
      match readString rest with
      | none => none
      | some (name, rest) =>
        match skipGap rest with
        | ':' :: rest =>
          match readValue fuel rest with
          | none => none
          | some (v, rest) =>
            match skipGap rest with
            | ',' :: rest =>
              (readMembers fuel rest).map fun (ms, rest) => ((String.ofList name, v) :: ms, rest)
            | '\x7d' :: rest => some ([(String.ofList name, v)], rest)
            | _ => none
        | _ => none
    | _ => none

end

/-- A value at the start of a text, and the rest. -/
def readStart (cs : List Char) : Option (Json × List Char) := readValue (2 * cs.length + 2) cs

/-- How deeply a value may be nested; no text is read as one that is nested more deeply. -/
def depthLimit : Nat := 127

/-- The value of a whole text, its members in the order of the text. -/
def read? (s : String) : Option Json :=
  match readStart s.toList with
  | some (v, rest) => if (skipGap rest).isEmpty && v.depth ≤ depthLimit then some v else none
  | none => none

/-- The value of a whole text in its normal form. -/
def ofText? (s : String) : Option Json := (read? s).map normal

end PlanCourier.Json

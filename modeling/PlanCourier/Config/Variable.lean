import PlanCourier.Json.Basic
import PlanCourier.Json.Reader
import PlanCourier.Real.Literal
import PlanCourier.Text.Blank

/-!
# Environment variables

The text of an environment variable stands for a truth value, a number, a quoted text, a list or a
table where it is written like one as a whole, and for itself as it is otherwise.

Main statement: `ne_empty_of_levels`, no name that a variable leads through is empty.
-/

namespace PlanCourier.Variable

open PlanCourier.Text PlanCourier.Real

def isGap (c : Char) : Bool :=
  c == ' ' || c == '\t' || c == '\n' || c == '\r' || c == '\x0c'

def skipGap (cs : List Char) : List Char := cs.dropWhile isGap

def isSeparator (c : Char) : Bool := [',', '[', ']', '\x7b', '\x7d'].contains c

def isNameChar (c : Char) : Bool := c.isAlphanum || c == '_' || c == '-'

/-- What a bare value stands for: a real number if it has a point and is written like one, an
integer, or a text. -/
def bare (cs : List Char) : Json :=
  let real : Option Decimal := if cs.contains '.' then Decimal.ofText? cs else none
  match real with
  | some d => .number (.real ((Binary64.ofDecimal d).getD .greatest))
  | none =>
    match readInteger .unsigned64 cs with
    | .ok i => .ofInt i
    | .error _ =>
      match readInteger .signed64 cs with
      | .ok i => .ofInt i
      | .error _ => .text (String.ofList cs)

/-- The characters between quotes, still escaped, and what follows the closing one. -/
def quotedPart : List Char → Option (List Char × List Char)
  | [] => none
  | '"' :: rest => some ([], rest)
  | '\\' :: c :: rest => (quotedPart rest).map fun (s, rest) => ('\\' :: c :: s, rest)
  | c :: rest => (quotedPart rest).map fun (s, rest) => (c :: s, rest)

def shortEscapes : List (Char × Char) :=
  [('"', '"'), ('\\', '\\'), ('b', '\x08'), ('f', '\x0c'), ('n', '\n'), ('r', '\r'), ('t', '\t')]

def hexNumber? (cs : List Char) : Option Nat :=
  cs.foldl (fun n c => n.bind fun n => (Json.hexDigit? c).map (n * 16 + ·)) (some 0)

/-- The character of a number, if there is one. -/
def charOf? (n : Nat) : Option Char := if n.isValidChar then some (Char.ofNat n) else none

/-- Escaped characters as they are meant; each takes one of `fuel`. -/
def unescape : Nat → List Char → Option (List Char)
  | 0, _ => none
  | _ + 1, [] => some []
  | fuel + 1, '\\' :: c :: rest =>
    match [('u', 4), ('U', 8)].lookup c with
    | some n =>
      let digits := rest.take n
      if digits.length = n then do
        let c ← (hexNumber? digits).bind charOf?
        return c :: (← unescape fuel (rest.drop n))
      else none
    | none => do
      let c ← shortEscapes.lookup c
      return c :: (← unescape fuel rest)
  | fuel + 1, c :: rest =>
    if c = '\\' ∨ c = '\x7f' ∨ (c.toNat < 0x20 ∧ c ≠ '\t') then none
    else (unescape fuel rest).map (c :: ·)

def readQuoted : List Char → Option (String × List Char)
  | '"' :: rest => do
    let (s, rest) ← quotedPart rest
    let s ← unescape (s.length + 1) s
    return (String.ofList s, rest)
  | _ => none

def readName (cs : List Char) : Option (String × List Char) :=
  match cs with
  | '"' :: _ => readQuoted cs
  | cs =>
    match cs.takeWhile isNameChar with
    | [] => none
    | name => some (String.ofList name, cs.dropWhile isNameChar)

mutual

/-- A value with the blanks around it, and what follows; every call takes one of `fuel`. -/
def readValue : Nat → List Char → Option (Json × List Char)
  | 0, _ => none
  | fuel + 1, cs =>
    let read : Option (Json × List Char) :=
      match skipGap cs with
      | 't' :: 'r' :: 'u' :: 'e' :: rest => some (.bool true, rest)
      | 'f' :: 'a' :: 'l' :: 's' :: 'e' :: rest => some (.bool false, rest)
      | '\x7b' :: rest => readEntries fuel [] rest
      | '[' :: rest => readItems fuel [] rest
      | '"' :: rest => (readQuoted ('"' :: rest)).map fun (s, rest) => (.text s, rest)
      | '\'' :: c :: '\'' :: rest => some (.text (String.ofList [c]), rest)
      | '\'' :: _ => none
      | cs => some (bare (trim (cs.takeWhile fun c => !isSeparator c)),
          cs.dropWhile fun c => !isSeparator c)
    read.map fun (v, rest) => (v, skipGap rest)

/-- The items of a list that follow those before. -/
def readItems : Nat → List Json → List Char → Option (Json × List Char)
  | 0, _, _ => none
  | _ + 1, before, ']' :: rest => some (.list before.reverse, rest)
  | fuel + 1, before, cs =>
    match readValue fuel cs with
    | some (v, ',' :: rest) => readItems fuel (v :: before) rest
    | some (v, ']' :: rest) => some (.list (v :: before).reverse, rest)
    | _ => none

/-- The entries of a table that follow those before. -/
def readEntries : Nat → List (String × Json) → List Char → Option (Json × List Char)
  | 0, _, _ => none
  | _ + 1, before, '\x7d' :: rest => some (.object before, rest)
  | fuel + 1, before, cs =>
    match readName (skipGap cs) with
    | none => none
    | some (name, rest) =>
      match skipGap rest with
      | '=' :: rest =>
        match readValue fuel rest with
        | some (v, ',' :: rest) => readEntries fuel (Json.insertMember name v before) rest
        | some (v, '\x7d' :: rest) => some (.object (Json.insertMember name v before), rest)
        | _ => none
      | _ => none

end

def ofText (s : String) : Json :=
  match readValue (2 * s.length + 2) s.toList with
  | some (v, []) => v
  | _ => .text s

/-- A name without the start that marks the variables of this program, in any case; none if it does
not start so. -/
def strip (mark : String) (name : List Char) : Option (List Char) :=
  if (mark.toList.map Char.toLower).isPrefixOf (name.map Char.toLower) then
    some (name.drop mark.length)
  else none

/-- A name with a point for every two underscores, from left to right. -/
def pointed : List Char → List Char
  | '_' :: '_' :: rest => '.' :: pointed rest
  | c :: rest => c :: pointed rest
  | [] => []

/-- The names that the name of a variable leads through, in lower case; none if one of them is
empty. White space around the whole does not count. -/
def levels? (mark name : String) : Option (List String) :=
  (strip mark (trim name.toList)).bind fun cs =>
    let names := (trim (pointed cs)).splitOnP (· == '.')
    if names.contains [] then none
    else some (names.map fun n => String.ofList (n.map Char.toLower))

/-- A value under nested names. -/
def nest (v : Json) (names : List String) : Json :=
  names.foldr (fun name inner => .object [(name, inner)]) v

/-- What a variable sets, if it is one of this program. Two underscores lead into a section. -/
def setting (mark name text : String) : Option Json :=
  (levels? mark name).map (nest (ofText text))

theorem nest_cons (v : Json) (name : String) (rest : List String) :
    nest v (name :: rest) = .object [(name, nest v rest)] := rfl

theorem ne_empty_of_levels {mark name : String} {names : List String}
    (h : levels? mark name = some names) : "" ∉ names := by
  obtain ⟨cs, -, hcs⟩ := Option.bind_eq_some_iff.1 h
  dsimp only at hcs
  split at hcs
  next => cases hcs
  next hn =>
    obtain rfl := Option.some.inj hcs
    simp only [List.mem_map, not_exists, not_and]
    intro n hm he
    obtain rfl : n = [] := by simpa using congrArg String.toList he
    exact hn (List.elem_eq_true_of_mem hm)

end PlanCourier.Variable

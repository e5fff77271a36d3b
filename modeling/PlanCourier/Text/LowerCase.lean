import PlanCourier.Text.Property.Cased
import PlanCourier.Text.Property.CaseIgnorable
import PlanCourier.Text.Property.LowerCase

/-!
# Lower case of a text

Every character is replaced by its lower-case form. Two depend on more than the character: the
dotted capital I has a form of two characters, and a capital sigma that ends a word has the final
form.
-/

namespace PlanCourier.Text

/-- Whether the text, after what carries no weight, goes on with a cased letter. -/
def reachesCased (cs : List Char) : Bool :=
  match cs.dropWhile Property.caseIgnorable.has with
  | [] => false
  | c :: _ => Property.cased.has c

/-- The lower-case form of one character, which stands between `before` (nearest first) and
`after`. -/
def lowerChar (before : List Char) (c : Char) (after : List Char) : List Char :=
  if c.toNat < 0x80 then [if 'A' ≤ c ∧ c ≤ 'Z' then Char.ofNat (c.toNat + 32) else c]
  else if c = 'Σ' then [if reachesCased before && !reachesCased after then 'ς' else 'σ']
  else if c = 'İ' then ['i', '\u0307']
  else [((Property.lowerCodePoint? c.toNat).map Char.ofNat).getD c]

/-- The lower-case form of what follows `before`. -/
def lowerFrom (before : List Char) : List Char → List Char
  | [] => []
  | c :: rest => lowerChar before c rest ++ lowerFrom (c :: before) rest

def lower (cs : List Char) : List Char := lowerFrom [] cs

def lowered (s : String) : String := String.ofList (lower s.toList)

/-- A letter `A` to `Z` as its small letter; any other character as it is. -/
def lowerAscii (c : Char) : Char := if 'A' ≤ c ∧ c ≤ 'Z' then Char.ofNat (c.toNat + 32) else c

/-- Whether two strings are the same but for the case of the letters `A` to `Z`. -/
def sameIgnoringAsciiCase (a b : String) : Bool :=
  a.toList.map lowerAscii == b.toList.map lowerAscii

end PlanCourier.Text

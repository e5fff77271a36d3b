import PlanCourier.Yaml.Folding

/-!
# Plain scalars

A scalar without quotes ends where something else may start: at a comment, at a colon before a
blank, in a flow collection at one of its marks, and outside of them at a line that is not indented
enough.
-/

namespace PlanCourier.Yaml

/-- The characters that bound the parts of a flow collection. -/
def flowMarks : List Char := [',', '[', ']', '\x7b', '\x7d']

def indicators : List Char := flowMarks ++ "#&*!|>'\"%@`".toList

def startsPlain (inFlow : Bool) : List Mark → Bool
  | [] => false
  | m :: rest =>
    if m.char = '-' then !rest.head?.any (fun n => isBlank n.char)
    else if m.char = '?' ∨ m.char = ':' then !inFlow && !isClear rest
    else !isWhite m.char && !indicators.contains m.char

/-- The characters that no colon within a plain scalar of a flow collection may stand before. -/
def colonBounds : List Char := [',', '?', '[', ']', '\x7b', '\x7d']

/-- Whether a plain scalar ends before this character. -/
def endsPlain (inFlow : Bool) (m : Mark) (rest : List Mark) : Bool :=
  (m.char == ':' && isClear rest) || (inFlow && flowMarks.contains m.char)

/-- A plain scalar: its text, whether white space over the end of a line follows it, and what
follows that. -/
structure Plain where
  text : List Char
  isBroken : Bool
  rest : List Mark
  deriving Repr

/-- The rest of a plain scalar, after what was read of it and the white space after that, the last
character first. Outside of flow collections further lines start at column `least` or later. -/
def plain (inFlow : Bool) (least : Nat) (before : List Char) (gap : Gap) : List Mark → Option Plain
  | [] => some ⟨before.reverse, gap.isBroken, []⟩
  | m :: rest =>
    if isWhite m.char then
      if gap.isBroken && m.char == '\t' && m.column < least then none
      else plain inFlow least before (gap.add m.char) rest
    else
      let startsWord := gap != .none
      if (startsWord && (isBoundary (m :: rest) || m.char == '#')) ||
          (!inFlow && gap.isBroken && m.column < least) then
        some ⟨before.reverse, gap.isBroken, m :: rest⟩
      else if inFlow && m.char == ':' && rest.head?.any (fun n => colonBounds.contains n.char) then
        none
      else if endsPlain inFlow m rest then some ⟨before.reverse, gap.isBroken, m :: rest⟩
      else plain inFlow least (m.char :: (gap.text ++ before)) .none rest

end PlanCourier.Yaml

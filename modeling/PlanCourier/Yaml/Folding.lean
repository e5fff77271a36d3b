import PlanCourier.Yaml.Mark

/-!
# White space within scalars

A scalar may go on in further lines. Blanks within a line stand for themselves; the end of one line
stands for one blank, and each empty line for a line feed. Blanks beside an end of a line are only
layout.
-/

namespace PlanCourier.Yaml

/-- White space between two words of a scalar, as far as it was read. -/
inductive Gap where
  /-- Blanks within a line, the last one first. -/
  | blanks (chars : List Char)
  /-- Ends of lines: the first one, unless a backslash hides it, and the further ones, the last one
  first. -/
  | lines (first : Option Char) (further : List Char)
  deriving DecidableEq, Repr

namespace Gap

def none : Gap := .blanks []

/-- The white space with one more character. -/
def add (c : Char) : Gap → Gap
  | .blanks cs => if isBreak c then .lines (some c) [] else .blanks (c :: cs)
  | .lines first cs => if isBreak c then .lines first (c :: cs) else .lines first cs

/-- Whether the white space goes over the end of a line. -/
def isBroken : Gap → Bool
  | .blanks _ => false
  | .lines _ _ => true

/-- What the white space stands for, the last character first. -/
def text : Gap → List Char
  | .blanks cs => cs
  | .lines (some '\n') [] => [' ']
  | .lines (some '\n') cs => cs
  | .lines (some c) cs => cs ++ [c]
  | .lines Option.none cs => cs

end Gap

end PlanCourier.Yaml

/-!
# Sets of code points

A set of characters is written as the lengths of its gaps and runs in turn, counted from code
point 0: `[65, 26]` is the letters `A` to `Z`. The tables of character properties are such lists.
-/

namespace PlanCourier.Text

/-- Whether position `n`, counted from the start of the next gap, lies in one of the runs. -/
def inRuns : List Nat → Nat → Bool
  | gap :: run :: rest, n =>
    if n < gap then false
    else if n - gap < run then true
    else inRuns rest (n - gap - run)
  | _, _ => false

/-- A set of code points as alternating lengths of gaps and runs. -/
structure CodePoints where
  lengths : List Nat
  deriving Repr

/-- The character of a code point, if there is one. -/
def charOf? (n : Nat) : Option Char := if n.isValidChar then some (Char.ofNat n) else none

def CodePoints.has (s : CodePoints) (c : Char) : Bool := inRuns s.lengths c.toNat

end PlanCourier.Text

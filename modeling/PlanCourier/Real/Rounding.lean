/-!
# Rounding a quotient to an integer

`roundDiv num den tie` is the integer nearest to `num / den`; where two are equally near, `tie`
says which is taken.
-/

namespace PlanCourier.Real

/-- Which of two equally near integers is taken. -/
inductive Tie where
  | toEven
  | up
  deriving DecidableEq, Repr

/-- Whether a tie above `floor` is taken upwards. -/
def Tie.goesUp (t : Tie) (floor : Nat) : Bool :=
  match t with
  | .toEven => floor % 2 == 1
  | .up => true

/-- The integer nearest to `num / den`. -/
def roundDiv (num den : Nat) (tie : Tie) : Nat :=
  let floor := num / den
  let rest := 2 * (num % den)
  if den < rest || (rest == den && tie.goesUp floor) then floor + 1 else floor

end PlanCourier.Real

/-!
# Digits of any base

The number that digits of a base up to 36 stand for.

Main statement: `digitsIn_append_digit`, one more digit at the end multiplies the number by the base
and adds the digit.
-/

namespace PlanCourier.Text

/-- The value of a digit in any base up to 36, in either case. -/
def digitValue? (c : Char) : Option Nat :=
  if '0' ≤ c ∧ c ≤ '9' then some (c.toNat - '0'.toNat)
  else if 'a' ≤ c ∧ c ≤ 'z' then some (c.toNat - 'a'.toNat + 10)
  else if 'A' ≤ c ∧ c ≤ 'Z' then some (c.toNat - 'A'.toNat + 10)
  else none

def digitIn? (base : Nat) (c : Char) : Option Nat :=
  (digitValue? c).bind fun d => if d < base then some d else none

/-- The digits added to `acc`, if all of them are digits of the base. -/
def addDigits (base : Nat) : Nat → List Char → Option Nat
  | acc, [] => some acc
  | acc, c :: rest =>
    match digitIn? base c with
    | some d => addDigits base (acc * base + d) rest
    | none => none

/-- The number that digits of the base stand for; there has to be one. -/
def digitsIn (base : Nat) : List Char → Option Nat
  | [] => none
  | cs => addDigits base 0 cs

theorem addDigits_append_digit {base acc n d : Nat} {cs : List Char} {c : Char}
    (h : addDigits base acc cs = some n) (hc : digitIn? base c = some d) :
    addDigits base acc (cs ++ [c]) = some (n * base + d) := by
  induction cs generalizing acc with
  | nil =>
    obtain rfl := Option.some.inj h
    simp [addDigits, hc]
  | cons x cs ih =>
    rw [List.cons_append, addDigits]
    rw [addDigits] at h
    split at h
    next => exact ih h
    next => cases h

theorem digitsIn_append_digit {base n d : Nat} {cs : List Char} {c : Char}
    (h : digitsIn base cs = some n) (hc : digitIn? base c = some d) :
    digitsIn base (cs ++ [c]) = some (n * base + d) := by
  cases cs with
  | nil => cases h
  | cons x cs => exact addDigits_append_digit h hc

end PlanCourier.Text

import PlanCourier.Real.Rounding

/-!
# Numbers of 64 bits

A binary64 number as a sign and the word below the sign bit, its `magnitude`. Magnitudes are in
order of the values they stand for: the word `e · 2^52 + f` stands for `(2^52 + f) · 2^(e - 1075)`,
and for `f · 2^(-1074)` where `e` is 0. All arithmetic is on natural numbers and exact.

`ofDecimal` reads a decimal and `ofInt` an integer: both give the nearest number, a tie going to
the even magnitude. A decimal beyond the greatest number has none.
-/

namespace PlanCourier.Real

/-- A decimal number `± digits · 10 ^ exponent`. -/
structure Decimal where
  negative : Bool
  digits : Nat
  exponent : Int
  deriving DecidableEq, Repr

/-- A binary64 number that is neither infinite nor undefined. -/
structure Binary64 where
  negative : Bool
  magnitude : Nat
  deriving DecidableEq, Repr

namespace Binary64

/-- The numbers of one binade. -/
def binade : Nat := Nat.pow 2 52

/-- The magnitude after the greatest finite one. -/
def infinite : Nat := 2047 * binade

/-- The integer that the number is a multiple of a power of two of. -/
def significand (x : Binary64) : Nat :=
  if x.magnitude < binade then x.magnitude else binade + x.magnitude % binade

/-- The exponent of that power of two, counted from the least one, -1074. -/
def scale (x : Binary64) : Nat := x.magnitude / binade - 1

/-- The absolute value as a quotient. -/
def ratio (x : Binary64) : Nat × Nat :=
  if x.scale < 1074 then (x.significand, Nat.pow 2 (1074 - x.scale))
  else (x.significand * Nat.pow 2 (x.scale - 1074), 1)

/-- The largest `l` with `2 ^ l ≤ num / den`, for positive `num` and `den`. -/
def floorLog2 (num den : Nat) : Int :=
  let l : Int := (Nat.log2 num : Int) - Nat.log2 den
  let atLeast : Bool :=
    if 0 ≤ l then den * Nat.pow 2 l.toNat ≤ num else den ≤ num * Nat.pow 2 (-l).toNat
  if atLeast then l else l - 1

/-- The magnitude nearest to `num / den`; `infinite` or more where the quotient is too great. -/
def nearest (num den : Nat) : Nat :=
  if num = 0 then 0
  else
    let q : Int := max (-1074) (floorLog2 num den - 52)
    let m := if 0 ≤ q then roundDiv num (den * Nat.pow 2 q.toNat) .toEven
      else roundDiv (num * Nat.pow 2 (-q).toNat) den .toEven
    (q + 1074).toNat * binade + m

/-- The magnitude nearest to a quotient, if it is finite. -/
def nearest? (num den : Nat) : Option Nat :=
  let m := nearest num den
  if m < infinite then some m else none

/-- The number nearest to a decimal, if the decimal is within reach. A decimal beyond `10 ^ 310`
is too great and one below `10 ^ (-330)` is zero, whatever its digits. -/
def ofDecimal (d : Decimal) : Option Binary64 :=
  if d.digits = 0 then some ⟨d.negative, 0⟩
  else
    let top : Int := d.exponent + (Nat.toDigits 10 d.digits).length
    if 310 < top then none
    else if top < -330 then some ⟨d.negative, 0⟩
    else if 0 ≤ d.exponent then
      (nearest? (d.digits * Nat.pow 10 d.exponent.toNat) 1).map (⟨d.negative, ·⟩)
    else (nearest? d.digits (Nat.pow 10 (-d.exponent).toNat)).map (⟨d.negative, ·⟩)

/-- The number nearest to an integer of at most 64 bits. -/
def ofInt (i : Int) : Binary64 := ⟨i < 0, nearest i.natAbs 1⟩

/-- The number nearest to the quotient of two naturals. -/
def ofQuotient (num den : Nat) : Binary64 := ⟨false, nearest num den⟩

end Binary64

end PlanCourier.Real

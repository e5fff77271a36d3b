import PlanCourier.Real.Shortest
import PlanCourier.Text.Decimal

/-!
# How a real number is laid out as text

A layout says for which decimal exponents the digits are written out with a point, and what is
written otherwise. `Layout.render` writes the shortest decimal of a number so; `fixed` writes a
number with a set count of places.

`json` is the layout of real numbers in JSON texts, `plain` the one for reading by people.
-/

namespace PlanCourier.Real

open PlanCourier.Text

/-- The decisions of a number format. -/
structure Layout where
  /-- The decimal exponents, of the first digit, at which the digits are written out; any where
  there is no such pair. -/
  writtenOut : Option (Int × Int)
  /-- Whether a number without a fraction ends in `.0` where it is written out. -/
  pointZero : Bool
  /-- Which of two equally near decimals is taken. -/
  tie : Tie
  deriving Repr

/-- JSON texts write digits out from `10 ^ -5` to below `10 ^ 16`, keep `.0`, and send a tie to the
even digit. -/
def Layout.json : Layout := ⟨some (-5, 15), true, .toEven⟩

/-- For reading, digits are always written out and a whole number has no point. -/
def Layout.plain : Layout := ⟨none, false, .up⟩

def zeros (n : Nat) : List Char := List.replicate n '0'

/-- Digits with the point after the first `point` of them, filled up with zeros on either side. -/
def withPoint (digits : List Char) (point : Int) (pointZero : Bool) : List Char :=
  if point ≤ 0 then '0' :: '.' :: (zeros (-point).toNat ++ digits)
  else if digits.length ≤ point.toNat then
    digits ++ zeros (point.toNat - digits.length) ++ (if pointZero then ['.', '0'] else [])
  else digits.take point.toNat ++ '.' :: digits.drop point.toNat

/-- Digits with a point after the first one, and the exponent with its sign. -/
def withExponent (digits : List Char) (exponent : Int) : List Char :=
  let mantissa := match digits with
    | d :: e :: rest => d :: '.' :: e :: rest
    | ds => ds
  mantissa ++ 'e' :: (if exponent < 0 then '-' else '+') :: natural exponent.natAbs

/-- The text of a number. -/
def Layout.render (l : Layout) (x : Binary64) : List Char :=
  let d := x.shortest l.tie
  let digits := natural d.digits
  let exponent : Int := if d.digits = 0 then 0 else d.exponent + digits.length - 1
  let body :=
    match l.writtenOut with
    | none => withPoint digits (exponent + 1) l.pointZero
    | some (least, greatest) =>
      if least ≤ exponent ∧ exponent ≤ greatest then withPoint digits (exponent + 1) l.pointZero
      else withExponent digits exponent
  if d.negative then '-' :: body else body

/-- The number with one place after the point; of two equally near tenths the even one. -/
def tenths (x : Binary64) : List Char :=
  let (num, den) := x.ratio
  let t := roundDiv (num * 10) den .toEven
  let body := natural (t / 10) ++ '.' :: natural (t % 10)
  if x.negative then '-' :: body else body

end PlanCourier.Real

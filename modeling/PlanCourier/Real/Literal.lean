import PlanCourier.Real.Binary64
import PlanCourier.Text.Decimal

/-!
# Decimal literals

A decimal number in the loose form that configuration values have: a sign, digits with a point
somewhere, and an exponent, each of them optional as long as there is one digit. `1.`, `.5` and
`+2e3` are such literals.
-/

namespace PlanCourier.Real

open PlanCourier.Text

def digitsNumber (cs : List Char) : Nat := cs.foldl (fun n c => n * 10 + (digit? c).getD 0) 0

def isDigit (c : Char) : Bool := (digit? c).isSome

/-- A number that stands alone: a sign, which may be left out, and at least one digit. -/
def exponentOf? (cs : List Char) : Option Int :=
  let (negative, ds) := match cs with
    | '-' :: rest => (true, rest)
    | '+' :: rest => (false, rest)
    | rest => (false, rest)
  if ds.isEmpty || !ds.all isDigit then none
  else some (if negative then -(digitsNumber ds : Int) else digitsNumber ds)

def unsignedOf? (negative : Bool) (cs : List Char) : Option Decimal :=
  let whole := cs.takeWhile isDigit
  let (fraction, rest) := match cs.dropWhile isDigit with
    | '.' :: rest => (rest.takeWhile isDigit, rest.dropWhile isDigit)
    | rest => ([], rest)
  if whole.isEmpty && fraction.isEmpty then none
  else
    let shift := fraction.length
    match rest with
    | [] => some ⟨negative, digitsNumber (whole ++ fraction), -(shift : Int)⟩
    | 'e' :: rest | 'E' :: rest =>
      (exponentOf? rest).map fun e => ⟨negative, digitsNumber (whole ++ fraction), e - shift⟩
    | _ => none

/-- The decimal that a whole text stands for. -/
def Decimal.ofText? : List Char → Option Decimal
  | '-' :: rest => unsignedOf? true rest
  | '+' :: rest => unsignedOf? false rest
  | cs => unsignedOf? false cs

def Binary64.greatest : Binary64 := ⟨false, Binary64.infinite - 1⟩

end PlanCourier.Real

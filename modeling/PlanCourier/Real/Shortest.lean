import PlanCourier.Real.Binary64

/-!
# The shortest decimal that reads back

A binary64 number is written with the fewest digits that read back as the same number. On the grid
of the decimals with `n` digits, only the two neighbours of the number can be the nearest decimal
that reads back, so the search tries them for 1, 2, … 17 digits: the first grid with a hit wins,
and of two hits the nearer one, a tie going where the layout sends it.

Main statement: `reads_shortest?`, what the search finds reads back as the number.
-/

namespace PlanCourier.Real

namespace Binary64

/-- The number of decimal digits before the point of `num / den`; for a value below one, zero less
the number of zeros that follow the point. -/
def decimalPoint (num den : Nat) : Int :=
  let guess : Int := (Nat.toDigits 10 num).length - (Nat.toDigits 10 den).length
  -- the value lies below `10 ^ (guess + 1)` and not below `10 ^ (guess - 1)`
  let atLeast : Bool :=
    if 0 ≤ guess then den * Nat.pow 10 guess.toNat ≤ num
    else den ≤ num * Nat.pow 10 (-guess).toNat
  if atLeast then guess + 1 else guess

/-- `num / den` in units of `10 ^ unit`, as a quotient. -/
def inUnits (num den : Nat) (unit : Int) : Nat × Nat :=
  if 0 ≤ unit then (num, den * Nat.pow 10 unit.toNat) else (num * Nat.pow 10 (-unit).toNat, den)

/-- Whether the decimal reads as the number. -/
def reads (x : Binary64) (d : Decimal) : Bool := ofDecimal d == some x

/-- The decimals of `n` digits next to the number that read back, the nearer one first. -/
def neighbours (x : Binary64) (tie : Tie) (n : Nat) : List Decimal :=
  let (num, den) := x.ratio
  let unit := decimalPoint num den - n
  let (a, b) := inUnits num den unit
  let below : Decimal := ⟨x.negative, a / b, unit⟩
  let above : Decimal := ⟨x.negative, a / b + 1, unit⟩
  let pair := if roundDiv a b tie = a / b then [below, above] else [above, below]
  pair.filter x.reads

/-- The first decimal that reads back, with `n` digits or more but no more than `n + more`. -/
def search (x : Binary64) (tie : Tie) (n : Nat) : Nat → Option Decimal
  | 0 => none
  | more + 1 => ((x.neighbours tie n).head?).or (search x tie (n + 1) more)

/-- The shortest decimal that reads back, the nearest of those. -/
def shortest? (x : Binary64) (tie : Tie) : Option Decimal :=
  if x.magnitude = 0 then some ⟨x.negative, 0, 0⟩ else x.search tie 1 17

/-- The decimal of a number that is a whole multiple of `10 ^ exponent`, without the zeros at its
end. -/
def stripZeros (digits : Nat) (exponent : Int) : Nat → Nat × Int
  | 0 => (digits, exponent)
  | fuel + 1 =>
    if digits ≠ 0 ∧ digits % 10 = 0 then stripZeros (digits / 10) (exponent + 1) fuel
    else (digits, exponent)

/-- The shortest decimal that reads back, without zeros at its end; the exact value where the
search finds none, which 17 digits rule out. -/
def shortest (x : Binary64) (tie : Tie) : Decimal :=
  match x.shortest? tie with
  | some d =>
    let (digits, exponent) := stripZeros d.digits d.exponent (Nat.log2 d.digits + 1)
    ⟨d.negative, digits, exponent⟩
  | none =>
    let (num, den) := x.ratio
    ⟨x.negative, num * Nat.pow 5 (Nat.log2 den), -(Nat.log2 den : Int)⟩

theorem reads_of_mem_neighbours {x : Binary64} {tie : Tie} {n : Nat} {d : Decimal}
    (h : d ∈ x.neighbours tie n) : x.reads d = true :=
  (List.mem_filter.1 h).2

theorem reads_search {x : Binary64} {tie : Tie} {n more : Nat} {d : Decimal}
    (h : x.search tie n more = some d) : x.reads d = true := by
  induction more generalizing n with
  | zero => simp [search] at h
  | succ more ih =>
    simp only [search] at h
    cases hh : (x.neighbours tie n).head? with
    | none => rw [hh] at h; exact ih (by simpa using h)
    | some e =>
      rw [hh] at h
      obtain rfl : e = d := by simpa using h
      exact reads_of_mem_neighbours (List.mem_of_mem_head? hh)

theorem reads_shortest? {x : Binary64} {tie : Tie} {d : Decimal}
    (h : x.shortest? tie = some d) : ofDecimal d = some x := by
  unfold shortest? at h
  split at h
  next hz =>
    obtain rfl := Option.some.inj h
    simp [ofDecimal, ← hz]
  next => simpa [reads] using reads_search h

end Binary64

end PlanCourier.Real

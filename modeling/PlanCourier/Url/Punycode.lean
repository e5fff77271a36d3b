import PlanCourier.Text.CodePoints

/-!
# Names in the characters of ASCII

A name with other characters is written in ASCII: first the characters of ASCII that it holds, then,
after a hyphen, numbers that say which other characters are put in and where. The characters are put
in by ascending code points, and each number counts how many places are passed since the last one.
Numbers are written digit by digit, the lowest one first; which digits end a number depends on how
large the numbers before it were.

Main statement: `readNumber?_writeNumber`, a number that was written is read back, and nothing after
it is taken.
-/

namespace PlanCourier.Url.Punycode

open PlanCourier.Text (charOf?)

def digit (n : Nat) : Char := if n < 26 then Char.ofNat (97 + n) else Char.ofNat (22 + n)

def digitOf? (c : Char) : Option Nat :=
  if 'a' ≤ c ∧ c ≤ 'z' then some (c.toNat - 97)
  else if '0' ≤ c ∧ c ≤ '9' then some (c.toNat - 22)
  else none

/-- The bound below which a digit ends its number, at the place that counts `place` from the start
of the number. -/
def bound (bias place : Nat) : Nat := min 26 (max 1 (place - bias))

theorem bound_pos (bias place : Nat) : 0 < bound bias place := by
  unfold bound; omega

theorem bound_le (bias place : Nat) : bound bias place ≤ 26 := by
  unfold bound; omega

theorem digitOf?_digit {n : Nat} (h : n < 36) : digitOf? (digit n) = some n := by
  have : ∀ m : Fin 36, digitOf? (digit m) = some m.val := by decide
  exact this ⟨n, h⟩

def writeNumber (bias place n : Nat) : List Char :=
  let b := bound bias place
  if n < b then [digit n]
  else digit (b + (n - b) % (36 - b)) :: writeNumber bias (place + 36) ((n - b) / (36 - b))
termination_by n
decreasing_by
  have := bound_pos bias place
  exact Nat.lt_of_le_of_lt (Nat.div_le_self _ _) (by omega)

/-- The number that digits from this place on stand for, the first one times `weight`, added to
`acc`; and what follows it. -/
def readNumber? (bias place weight acc : Nat) : List Char → Option (Nat × List Char)
  | [] => none
  | c :: rest =>
    match digitOf? c with
    | none => none
    | some d =>
      let b := bound bias place
      if d < b then some (acc + d * weight, rest)
      else readNumber? bias (place + 36) (weight * (36 - b)) (acc + d * weight) rest

theorem readNumber?_writeNumber (bias place weight acc n : Nat) (rest : List Char) :
    readNumber? bias place weight acc (writeNumber bias place n ++ rest) =
      some (acc + n * weight, rest) := by
  fun_induction writeNumber bias place n generalizing weight acc with
  | case1 place n b h =>
    have hb := bound_le bias place
    simp only [List.cons_append, List.nil_append, readNumber?]
    rw [digitOf?_digit (by omega)]
    simp [show n < bound bias place from h]
  | case2 place n b h ih =>
    have hb := bound_le bias place
    have hm : (n - b) % (36 - b) < 36 - b := Nat.mod_lt _ (by omega)
    simp only [List.cons_append, readNumber?]
    rw [digitOf?_digit (by omega)]
    have hd : ¬ b + (n - b) % (36 - b) < bound bias place := by omega
    simp only [hd, if_false]
    have hn : (b + (n - b) % (36 - b)) * weight + (n - b) / (36 - b) * (weight * (36 - b)) =
        n * weight := by
      rw [Nat.mul_comm weight, ← Nat.mul_assoc, Nat.mul_comm ((n - b) / (36 - b)), ← Nat.add_mul,
        Nat.add_assoc, Nat.mod_add_div]
      congr 1
      omega
    rw [ih, Nat.add_assoc]
    exact congrArg (fun x => some (acc + x, rest)) hn

/-- How large numbers are expected to be after a number scaled down to `n`. -/
def scaled (bias n : Nat) : Nat :=
  if 455 < n then scaled (bias + 36) (n / 35) else bias + 36 * n / (n + 38)
termination_by n
decreasing_by omega

/-- The bias after a number, with which the name has `length` characters. -/
def adapted (n length : Nat) (isFirst : Bool) : Nat :=
  let n := if isFirst then n / 700 else n / 2
  scaled 0 (n + n / length)

def firstBias : Nat := 72

/-! ## Writing -/

/-- The numbers of a name as far as they are written. -/
structure Writing where
  digits : List Char
  /-- How many places were passed since the last number. -/
  passed : Nat
  bias : Nat
  /-- How many characters of the name are written. -/
  count : Nat
  isFirst : Bool
  deriving Repr

/-- Passes over a character of the name while characters with the code point `n` are put in. -/
def Writing.pass (n : Nat) (w : Writing) (c : Char) : Writing :=
  if c.toNat < n then { w with passed := w.passed + 1 }
  else if c.toNat = n then
    ⟨w.digits ++ writeNumber w.bias 36 w.passed, 0, adapted w.passed (w.count + 1) w.isFirst,
      w.count + 1, false⟩
  else w

/-- Writes the characters with the code point `n`, after those up to `last`. -/
def Writing.point (name : List Char) (w : Writing) (last n : Nat) : Writing :=
  let w := { w with passed := w.passed + (n - last) * (w.count + 1) }
  let w := name.foldl (Writing.pass n) w
  { w with passed := w.passed + 1 }

/-- Writes the characters of these code points, which ascend, after those below `next`. -/
def Writing.points (name : List Char) (w : Writing) (next : Nat) : List Nat → Writing
  | [] => w
  | n :: rest => (w.point name next n).points name (n + 1) rest

def encode (name : List Char) : List Char :=
  let basic := name.filter fun c => c.toNat < 128
  let others := ((name.map (·.toNat)).filter (128 ≤ ·)).mergeSort.eraseDups
  let w : Writing := ⟨[], 0, firstBias, basic.length, true⟩
  (if basic.isEmpty then [] else basic ++ ['-']) ++ (w.points name 128 others).digits

/-! ## Reading -/

/-- Puts the characters into a name that numbers say, from the code point `n` and the place `i` on.
Each number takes one of `fuel`. -/
def insertions? : Nat → (name : List Char) → (n i bias : Nat) → (isFirst : Bool) → List Char →
    Option (List Char)
  | _, name, _, _, _, _, [] => some name
  | 0, _, _, _, _, _, _ => none
  | fuel + 1, name, n, i, bias, isFirst, digits =>
    match readNumber? bias 36 1 0 digits with
    | none => none
    | some (passed, rest) =>
      let length := name.length + 1
      let n := n + (i + passed) / length
      let i := (i + passed) % length
      match charOf? n with
      | none => none
      | some c =>
        insertions? fuel (name.insertIdx i c) n (i + 1) (adapted passed length isFirst) false rest

/-- The name that is written so in ASCII. -/
def decode? (cs : List Char) : Option (List Char) :=
  let digits := (cs.reverse.takeWhile (· != '-')).reverse
  let basic := cs.take (cs.length - digits.length)
  match basic with
  | ['-'] => none
  | basic =>
    if basic.all fun c => c.toNat < 128 then
      insertions? digits.length basic.dropLast 128 0 firstBias true digits
    else none

end PlanCourier.Url.Punycode

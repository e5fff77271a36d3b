/-!
# Integers as decimal text

Writing integers in decimal, and reading the text of an integer that has to fit a range. A text
that is no integer of the range is refused with its cause: nothing to read, a character that is no
digit, or a number beyond one of the ends, whichever comes first from the left.

Main statements:

- `natural_ne_nil` and `natural_digits`: a number is written with at least one character, and with
  digits alone;
- `natural_inj`: different numbers are written differently;
- `Cause.message`: the wording of each refusal.
-/

namespace PlanCourier.Text

def natural (n : Nat) : List Char := Nat.toDigits 10 n

/-- An integer in decimal, with a minus sign where it is negative. -/
def integer : Int → List Char
  | .ofNat n => natural n
  | .negSucc n => '-' :: natural (n + 1)

def naturalText (n : Nat) : String := String.ofList (natural n)

def integerText (i : Int) : String := String.ofList (integer i)

def digit? (c : Char) : Option Nat :=
  if '0' ≤ c ∧ c ≤ '9' then some (c.toNat - '0'.toNat) else none

theorem natural_ne_nil (n : Nat) : natural n ≠ [] := Nat.toDigits_ne_nil

theorem natural_digits {n : Nat} {c : Char} (h : c ∈ natural n) : c.isDigit = true :=
  Nat.isDigit_of_mem_toDigits (by decide) (by decide) h

theorem natural_inj {m n : Nat} : natural m = natural n ↔ m = n := by
  constructor
  · intro h
    have hread := congrArg (Nat.ofDigitChars 10 · 0) h
    simpa [natural] using hread
  · rintro rfl
    rfl

/-- A range of integers, both ends included. -/
structure Span where
  least : Int
  greatest : Int
  deriving DecidableEq, Repr

def Span.signed64 : Span := ⟨-0x8000000000000000, 0x7FFFFFFFFFFFFFFF⟩

def Span.unsigned64 : Span := ⟨0, 0xFFFFFFFFFFFFFFFF⟩

def Span.unsigned32 : Span := ⟨0, 0xFFFFFFFF⟩

def Span.holds (s : Span) (i : Int) : Bool := s.least ≤ i && i ≤ s.greatest

/-- Why a text is no integer of a range. -/
inductive Cause where
  | empty
  | badDigit
  | tooLarge
  | tooSmall
  deriving DecidableEq, Repr

def Cause.message : Cause → String
  | .empty => "cannot parse integer from empty string"
  | .badDigit => "invalid digit found in string"
  | .tooLarge => "number too large to fit in target type"
  | .tooSmall => "number too small to fit in target type"

/-- The digits added to `acc` one after another, upwards; a sum beyond the range is refused where
it arises. -/
def readUp (s : Span) : Int → List Char → Except Cause Int
  | acc, [] => .ok acc
  | acc, c :: rest =>
    match digit? c with
    | none => .error .badDigit
    | some d =>
      let next := acc * 10 + d
      if next ≤ s.greatest then readUp s next rest else .error .tooLarge

/-- The digits taken from `acc` one after another, downwards. -/
def readDown (s : Span) : Int → List Char → Except Cause Int
  | acc, [] => .ok acc
  | acc, c :: rest =>
    match digit? c with
    | none => .error .badDigit
    | some d =>
      let next := acc * 10 - d
      if s.least ≤ next then readDown s next rest else .error .tooSmall

/-- Reads an integer of the range: a sign, which may be left out, and digits. A minus sign is read
only where the range has negative numbers. -/
def readInteger (s : Span) : List Char → Except Cause Int
  | [] => .error .empty
  | ['+'] => .error .badDigit
  | ['-'] => .error .badDigit
  | '+' :: rest => readUp s 0 rest
  | '-' :: rest => if s.least < 0 then readDown s 0 rest else .error .badDigit
  | cs => readUp s 0 cs

end PlanCourier.Text

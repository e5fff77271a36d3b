import PlanCourier.Text.Decimal

/-!
# Moments

A moment as milliseconds since the start of 1970 in universal time, and its text: date and time of
day, with the milliseconds where there are any.

The date is found by counting days from the first of March of the year 0, so that the leap day is
the last day of a year. Years are counted in eras of 400, each of 146097 days.

Main statement: `dayOf_msOfDay`, a moment is its day and its time of day together.
-/

namespace PlanCourier

open PlanCourier.Text

/-- Milliseconds since the start of 1970. -/
structure Moment where
  ms : Int
  deriving DecidableEq, Repr

structure Date where
  year : Int
  month : Nat
  day : Nat
  deriving DecidableEq, Repr

namespace Moment

def dayLength : Int := 86400000

/-- The days since the start of 1970. -/
def dayOf (m : Moment) : Int := m.ms.fdiv dayLength

/-- The milliseconds since the start of the day. -/
def msOfDay (m : Moment) : Nat := (m.ms.fmod dayLength).toNat

def dateOf (days : Int) : Date :=
  let shifted := days + 719468
  let era := shifted.fdiv 146097
  let dayOfEra := (shifted.fmod 146097).toNat
  let yearOfEra :=
    (dayOfEra - dayOfEra / 1460 + dayOfEra / 36524 - dayOfEra / 146096) / 365
  let dayOfYear := dayOfEra - (365 * yearOfEra + yearOfEra / 4 - yearOfEra / 100)
  let monthFromMarch := (5 * dayOfYear + 2) / 153
  let month := if monthFromMarch < 10 then monthFromMarch + 3 else monthFromMarch - 9
  ⟨yearOfEra + era * 400 + (if month ≤ 2 then 1 else 0), month,
    dayOfYear - (153 * monthFromMarch + 2) / 5 + 1⟩

/-- A number with zeros in front up to a number of digits. -/
def padded (digits n : Nat) : String :=
  let ds := natural n
  String.ofList (List.replicate (digits - ds.length) '0' ++ ds)

/-- A year of four digits; beyond these it has a sign. -/
def yearText (y : Int) : String :=
  if 0 ≤ y ∧ y ≤ 9999 then padded 4 y.toNat
  else (if y < 0 then "-" else "+") ++ padded 4 y.natAbs

def text (m : Moment) : String :=
  let d := dateOf m.dayOf
  let ms := m.msOfDay
  let fraction := if ms % 1000 = 0 then "" else "." ++ padded 3 (ms % 1000)
  yearText d.year ++ "-" ++ padded 2 d.month ++ "-" ++ padded 2 d.day ++ "T" ++
    padded 2 (ms / 3600000) ++ ":" ++ padded 2 (ms / 60000 % 60) ++ ":" ++
    padded 2 (ms / 1000 % 60) ++ fraction ++ "Z"

theorem dayOf_msOfDay (m : Moment) : m.ms = m.dayOf * dayLength + m.msOfDay := by
  have h := Int.fmod_def m.ms dayLength
  have hn : 0 ≤ m.ms.fmod dayLength := Int.fmod_nonneg_of_pos _ (by decide)
  have hc := Int.mul_comm dayLength (m.ms.fdiv dayLength)
  unfold dayOf msOfDay
  omega

end Moment

end PlanCourier

import PlanCourier.Solve.Answer

/-!
# Polling with a budget

A task is checked after a fixed delay, again and again, until it is over or the budget of checks is
used up. The policy holds delay and budget; an attempt is one scheduled check. After an answer the
policy either goes on with the next attempt or ends.

Main statements:

- `toNat_next`: the number of an attempt grows by one and stays at the greatest word;
- `left_lt_of_proceed`: an attempt that follows another one has less of the budget left;
- `proceed_ok` and `proceed_error`: a task that is over ends the loop, whatever the attempt.
-/

namespace PlanCourier

/-- A fixed delay before every check, and how many checks there may be. -/
structure PollPolicy where
  /-- The delay in milliseconds. -/
  interval : UInt64
  /-- The budget of checks. -/
  budget : UInt32
  deriving DecidableEq, Repr

/-- One scheduled check of a task. -/
structure Attempt where
  handle : String
  /-- How many checks came before. -/
  number : UInt32
  /-- The budget of checks. -/
  budget : UInt32
  deriving DecidableEq, Repr

namespace Attempt

/-- The attempt after this one; the number stays at the greatest word once it is there. -/
def next (a : Attempt) : Attempt :=
  { a with number := if a.number = 0xFFFFFFFF then a.number else a.number + 1 }

def isExhausted (a : Attempt) : Bool := a.budget ≤ a.number

def left (a : Attempt) : Nat := a.budget.toNat - a.number.toNat

theorem toNat_next (a : Attempt) : a.next.number.toNat = min (a.number.toNat + 1) 0xFFFFFFFF := by
  have hb : a.number.toNat < 4294967296 := a.number.toNat_lt
  unfold next
  dsimp only
  split
  next h => rw [h]; decide
  next h =>
    have hne : a.number.toNat ≠ 4294967295 := fun he => h (UInt32.toNat_inj.1 (by simpa using he))
    rw [UInt32.toNat_add]
    have h1 : (1 : UInt32).toNat = 1 := rfl
    omega

end Attempt

inductive Progress where
  /-- Wait once more, then check again. -/
  | again (attempt : Attempt)
  | finished (outcome : Outcome)
  deriving DecidableEq, Repr

namespace PollPolicy

/-- A policy with this delay and budget; the budget is at least one check. -/
def of (interval : UInt64) (budget : UInt32) : PollPolicy :=
  ⟨interval, if budget = 0 then 1 else budget⟩

/-- Five checks, five seconds apart. -/
def default : PollPolicy := ⟨5000, 5⟩

def start (p : PollPolicy) (handle : String) : Attempt := ⟨handle, 0, p.budget⟩

def proceed (a : Attempt) : Answer → Progress
  | .ok plans => .finished (.succeeded plans)
  | .error failure => .finished (.failed failure)
  | .pending => if a.next.isExhausted then .finished (.timedOut a.next.number) else .again a.next

theorem proceed_ok (a : Attempt) (plans : List Plan) :
    proceed a (.ok plans) = .finished (.succeeded plans) := rfl

theorem proceed_error (a : Attempt) (f : Failure) :
    proceed a (.error f) = .finished (.failed f) := rfl

theorem left_lt_of_proceed {a b : Attempt} {answer : Answer} (h : proceed a answer = .again b) :
    b.left < a.left := by
  cases answer with
  | ok | error => simp [proceed] at h
  | pending =>
    unfold proceed at h
    dsimp only at h
    split at h
    next => simp at h
    next hx =>
      obtain rfl : a.next = b := by simpa using h
      have hlt : a.next.number.toNat < a.next.budget.toNat := by
        simpa [Attempt.isExhausted, UInt32.not_le, UInt32.lt_iff_toNat_lt] using hx
      have hn := a.toNat_next
      have he : a.next.budget = a.budget := rfl
      unfold Attempt.left
      rw [he] at hlt ⊢
      have hb := a.budget.toNat_lt
      omega

/-- The delay in words: in seconds where it is whole seconds. -/
def intervalText (p : PollPolicy) : String :=
  let ms := p.interval.toNat
  if ms % 1000 = 0 then Text.naturalText (ms / 1000) ++ "s" else Text.naturalText ms ++ "ms"

end PollPolicy

end PlanCourier

import PlanCourier.Proofs.Solve.Verdict

/-!
# Pending answers and the budget

A loop that hears one pending answer after another, from any attempt on. The numbers of attempts are
words, and the last word is followed by itself; nevertheless the loop ends. Below the budget a number
grows by exactly one, as it is no greatest word, and at or past the budget one more answer is the last
one, as the number does not fall.

Main statements:

- `proceed_pending_of_lt` and `proceed_pending_of_le`: what one pending answer leads to;
- `after_pending`: the attempt that is reached after so many of them;
- `after_pending_left`: how many end the loop, and what it reports;
- `course_of_pending_answers`: both, with answers that end the loop at any point.
-/

namespace PlanCourier

namespace PollPolicy

variable {a : Attempt}

theorem proceed_pending_of_lt (h : a.number.toNat + 1 < a.budget.toNat) :
    proceed a .pending = .again a.next := by
  have hx : a.next.isExhausted = false := by
    rw [← Bool.not_eq_true, Attempt.isExhausted_next_iff]
    omega
  simp [proceed, hx]

theorem proceed_pending_of_le (h : a.budget.toNat ≤ a.number.toNat + 1) :
    proceed a .pending = .finished (.timedOut a.next.number) := by
  have hx : a.next.isExhausted = true := (Attempt.isExhausted_next_iff a).2 h
  simp [proceed, hx]

end PollPolicy

namespace Progress

variable {a : Attempt} {answers : List Answer} {b : Attempt} {outcome : Outcome}

/-- What follows one more answer. A loop that is over stays so. -/
def hear : Progress → Answer → Progress
  | .again a, answer => PollPolicy.proceed a answer
  | .finished outcome, _ => .finished outcome

/-- What a loop that is at an attempt comes to, with these answers. -/
def after (a : Attempt) (answers : List Answer) : Progress := answers.foldl hear (.again a)

theorem foldl_hear_finished (outcome : Outcome) (answers : List Answer) :
    answers.foldl hear (.finished outcome) = .finished outcome := by
  induction answers with
  | nil => rfl
  | cons answer rest ih => exact ih

theorem after_of_ending {answer : Answer} (h : after a answers = .again b)
    (hend : PollPolicy.proceed b answer = .finished outcome) (rest : List Answer) :
    after a (answers ++ answer :: rest) = .finished outcome := by
  unfold after at h ⊢
  rw [List.foldl_append, h, List.foldl_cons, hear, hend, foldl_hear_finished]

/-- As long as less than the rest of the budget was heard, the numbers count the answers. -/
theorem after_pending (k : Nat) (h : k < max 1 a.left) :
    ∃ b, after a (List.replicate k .pending) = .again b ∧
      b.handle = a.handle ∧ b.budget = a.budget ∧ b.number.toNat = a.number.toNat + k := by
  induction k with
  | zero => exact ⟨a, rfl, rfl, rfl, rfl⟩
  | succ k ih =>
    obtain ⟨b, hb, hhandle, hbudget, hnumber⟩ := ih (Nat.lt_of_succ_lt h)
    have hlt : b.number.toNat + 1 < b.budget.toNat := by
      rw [hnumber, hbudget]
      unfold Attempt.left at h
      omega
    have hnext : b.next.number.toNat = b.number.toNat + 1 :=
      Attempt.toNat_next_of_lt (by omega)
    refine ⟨b.next, ?_, hhandle, hbudget, ?_⟩
    · unfold after at hb ⊢
      rw [List.replicate_succ', List.foldl_append, hb]
      exact PollPolicy.proceed_pending_of_lt hlt
    · rw [hnext, hnumber]
      exact Nat.add_assoc _ _ _

/-- The rest of the budget is heard out, or one answer where nothing is left of it. -/
theorem after_pending_left (a : Attempt) : ∃ attempts : UInt32,
    attempts.toNat = max a.budget.toNat (min (a.number.toNat + 1) 0xFFFFFFFF) ∧
      ∀ rest, after a (List.replicate (max 1 a.left) .pending ++ rest) =
        .finished (.timedOut attempts) := by
  have hbudget := a.budget.toNat_lt
  -- the last of these answers is the one that ends the loop
  obtain ⟨k, hk⟩ : ∃ k, max 1 a.left = k + 1 := ⟨max 1 a.left - 1, by omega⟩
  obtain ⟨b, hb, -, hsame, hnumber⟩ := after_pending (a := a) k (by omega)
  unfold Attempt.left at hk
  have hle : b.budget.toNat ≤ b.number.toNat + 1 := by
    rw [hnumber, hsame]
    omega
  refine ⟨b.next.number, ?_, fun rest => ?_⟩
  · rw [Attempt.toNat_next, hnumber]
    omega
  · rw [Attempt.left, hk, List.replicate_succ', List.append_assoc]
    exact after_of_ending hb (PollPolicy.proceed_pending_of_le hle) rest

theorem left_start (p : PollPolicy) (handle : String) :
    (p.start handle).left = p.budget.toNat := Nat.sub_zero _

/-- From the start on it is the whole budget that is heard out and reported. -/
theorem after_pending_start {p : PollPolicy} (hp : 1 ≤ p.budget.toNat) (handle : String) :
    after (p.start handle) (List.replicate p.budget.toNat .pending) =
      .finished (.timedOut p.budget) := by
  obtain ⟨attempts, hattempts, hafter⟩ := after_pending_left (p.start handle)
  have hsame : attempts.toNat = p.budget.toNat := by
    calc attempts.toNat = max p.budget.toNat (min (0 + 1) 0xFFFFFFFF) := hattempts
      _ = p.budget.toNat := Nat.max_eq_left hp
  have hheard := hafter []
  rw [left_start, Nat.max_eq_right hp, List.append_nil] at hheard
  rw [hheard, UInt32.toNat_inj.1 hsame]

end Progress

/-- The course of a loop that hears pending answers, from any attempt on, also one past its budget.

As many of them as are left of the budget end it, at least one, and it reports the budget, or the
number it came to where that is past the budget. Before that the attempts keep their handle and budget
and count the answers, and any other answer ends the loop with what it brings. From the start on,
the answers that are heard, the number that is reported and the budget are the same. -/
theorem course_of_pending_answers :
    (∀ a : Attempt, let n := a.number.toNat; let m := a.budget.toNat
      (∀ k < max 1 (m - n), ∃ b, Progress.after a (List.replicate k .pending) = .again b ∧
        b.handle = a.handle ∧ b.budget = a.budget ∧ b.number.toNat = n + k ∧
        (0 < k → b.number < b.budget) ∧
        (∀ plans rest, Progress.after a (List.replicate k .pending ++ .ok plans :: rest) =
          .finished (.succeeded plans)) ∧
        ∀ failure rest, Progress.after a (List.replicate k .pending ++ .error failure :: rest) =
          .finished (.failed failure)) ∧
      ∃ attempts : UInt32, attempts.toNat = max m (min (n + 1) 0xFFFFFFFF) ∧
        ∀ rest, Progress.after a (List.replicate (max 1 (m - n)) .pending ++ rest) =
          .finished (.timedOut attempts)) ∧
    ∀ interval limit handle, let p := PollPolicy.of interval limit
      p.budget.toNat = max 1 limit.toNat ∧
      (∀ k < p.budget.toNat, ∃ b,
        Progress.after (p.start handle) (List.replicate k .pending) = .again b) ∧
      Progress.after (p.start handle) (List.replicate p.budget.toNat .pending) =
        .finished (.timedOut p.budget) := by
  refine ⟨fun a => ⟨fun k hk => ?_, Progress.after_pending_left a⟩, fun interval limit handle => ?_⟩
  · obtain ⟨b, hb, hhandle, hbudget, hnumber⟩ := Progress.after_pending k hk
    refine ⟨b, hb, hhandle, hbudget, hnumber, fun hpos => ?_, fun plans rest => ?_,
      fun failure rest => ?_⟩
    · rw [UInt32.lt_iff_toNat_lt, hnumber, hbudget]
      omega
    · exact Progress.after_of_ending hb (PollPolicy.proceed_ok b plans) rest
    · exact Progress.after_of_ending hb (PollPolicy.proceed_error b failure) rest
  · intro p
    have hbudget : p.budget.toNat = max 1 limit.toNat := PollPolicy.toNat_budget_of interval limit
    have hp : 1 ≤ p.budget.toNat := by
      rw [hbudget]
      exact Nat.le_max_left ..
    refine ⟨hbudget, fun k hk => ?_, Progress.after_pending_start hp handle⟩
    have hleft : k < max 1 (p.start handle).left := by
      rw [Progress.left_start, Nat.max_eq_right hp]
      exact hk
    obtain ⟨b, hb, -⟩ := Progress.after_pending k hleft
    exact ⟨b, hb⟩

end PlanCourier

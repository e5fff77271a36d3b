import PlanCourier.Solve.Errand

/-!
# Verdicts

What an answer leads to. An answer to a check has a verdict if it is a fault or its status is `ok`
or `error`; any other answer leaves the task running, and then only the budget can end the loop. An
answer to a submission leads to a task if it names a handle.

Main statements:

- `afterCheck_eq_ended` and `afterCheck_eq_wait`: what ends a loop, and what lets it go on;
- `isExhausted_next_iff`: which attempt uses the budget up;
- `toNat_next_of_lt` and `isExhausted_next`: within the budget the attempts are counted exactly, and
  the last one is the one that uses it up;
- `afterSubmit_eq_ok` and `afterSubmit_eq_error`: which submissions lead to a task.
-/

namespace PlanCourier

namespace Solver

variable {s : Solver} {a b : Attempt} {answer : Except ServiceFault Json}

/-- The result with which an answer to a check ends a loop, whatever is left of the budget. -/
def verdict (s : Solver) (handle : String) :
    Except ServiceFault Json → Option (Except SolveFault Outcome)
  | .error cause => some (.error (.check (Url.poll s.base handle) cause))
  | .ok response =>
    match (response.get? "status").bind Json.asText? with
    | some "ok" => some (.ok (.succeeded (Answer.plansOf response)))
    | some "error" => some (.ok (.failed (Failure.ofJson response)))
    | _ => none

theorem afterCheck_of_verdict {result : Except SolveFault Outcome}
    (h : s.verdict a.handle answer = some result) : s.afterCheck a answer = .ended result := by
  cases answer with
  | error cause =>
    obtain rfl := Option.some.inj h
    rfl
  | ok response =>
    simp only [verdict] at h
    split at h
    next hs =>
      obtain rfl := Option.some.inj h
      simp [afterCheck, Answer.ofJson, hs, PollPolicy.proceed]
    next hs =>
      obtain rfl := Option.some.inj h
      simp [afterCheck, Answer.ofJson, hs, PollPolicy.proceed]
    next => simp at h

theorem fault_of_verdict {handle : String} {fault : SolveFault}
    (h : s.verdict handle answer = some (.error fault)) :
    ∃ url cause, fault = .check url cause := by
  cases answer with
  | error cause =>
    obtain rfl := Except.error.inj (Option.some.inj h)
    exact ⟨_, cause, rfl⟩
  | ok response =>
    unfold verdict at h
    dsimp only at h
    split at h <;> simp at h

theorem afterCheck_of_running (h : s.verdict a.handle answer = none) :
    s.afterCheck a answer =
      if a.next.isExhausted then .ended (.ok (.timedOut a.next.number)) else .wait a.next := by
  cases answer with
  | error cause => simp [verdict] at h
  | ok response =>
    simp only [verdict] at h
    split at h
    next => simp at h
    next => simp at h
    next ho he =>
      have hp : Answer.ofJson response = .pending := Answer.ofJson_pending ho he
      simp only [afterCheck, hp, PollPolicy.proceed]
      cases a.next.isExhausted <;> rfl

theorem afterCheck_eq_ended {result : Except SolveFault Outcome} :
    s.afterCheck a answer = .ended result ↔ s.verdict a.handle answer = some result ∨
      s.verdict a.handle answer = none ∧ a.next.isExhausted = true ∧
        result = .ok (.timedOut a.next.number) := by
  cases hv : s.verdict a.handle answer with
  | some r => simp [afterCheck_of_verdict hv]
  | none =>
    rw [afterCheck_of_running hv]
    cases a.next.isExhausted <;> simp [eq_comm]

theorem afterCheck_eq_wait : s.afterCheck a answer = .wait b ↔
    s.verdict a.handle answer = none ∧ a.next.isExhausted = false ∧ b = a.next := by
  cases hv : s.verdict a.handle answer with
  | some r => simp [afterCheck_of_verdict hv]
  | none =>
    rw [afterCheck_of_running hv]
    cases a.next.isExhausted <;> simp [eq_comm]

end Solver

namespace Attempt

variable {a : Attempt}

theorem toNat_next_of_lt (h : a.number.toNat < max 1 a.budget.toNat) :
    a.next.number.toNat = a.number.toNat + 1 := by
  have hn := a.toNat_next
  have hb := a.budget.toNat_lt
  omega

/-- The budget is used up where the next number reaches it. That the number stays at the greatest
word makes no difference, for no budget is greater. -/
theorem isExhausted_next_iff (a : Attempt) :
    a.next.isExhausted = true ↔ a.budget.toNat ≤ a.number.toNat + 1 := by
  have hn := a.toNat_next
  have hb := a.budget.toNat_lt
  have he : a.next.budget = a.budget := rfl
  rw [isExhausted, decide_eq_true_eq, UInt32.le_iff_toNat_le, he, hn]
  omega

theorem isExhausted_next (h : a.number.toNat < max 1 a.budget.toNat) :
    a.next.isExhausted = true ↔ a.number.toNat + 1 = max 1 a.budget.toNat := by
  rw [isExhausted_next_iff]
  omega

/-- An attempt after which the loop goes on is followed by one within the budget. -/
theorem next_lt_of_not_isExhausted (h : a.number.toNat < max 1 a.budget.toNat)
    (hx : a.next.isExhausted = false) : a.next.number.toNat < max 1 a.next.budget.toNat := by
  have hn := toNat_next_of_lt h
  have hm := mt (isExhausted_next h).2 (by simp [hx])
  have he : a.next.budget = a.budget := rfl
  rw [he]
  omega

end Attempt

theorem PollPolicy.toNat_budget_of (interval : UInt64) (limit : UInt32) :
    (PollPolicy.of interval limit).budget.toNat = max 1 limit.toNat := by
  simp only [PollPolicy.of]
  split
  next h => simp [h]
  next h =>
    have hne : limit.toNat ≠ 0 := fun he => h (UInt32.toNat_inj.1 (by simpa using he))
    omega

namespace Solver

variable {s : Solver} {package : String} {answer : Except ServiceFault Json}

theorem handleIn_eq_some {response : Json} {handle : String} :
    handleIn response = some handle ↔
      response.get? "result" = some (.text handle) ∧ handle ≠ "" := by
  unfold handleIn
  split
  next text h =>
    rw [h]
    split
    next he =>
      obtain rfl := String.isEmpty_iff.1 he
      simp
    next he =>
      rw [String.isEmpty_iff] at he
      constructor
      · intro hs
        obtain rfl := Option.some.inj hs
        exact ⟨rfl, he⟩
      · rintro ⟨hs, -⟩
        exact congrArg some (Json.text.inj (Option.some.inj hs))
  next h =>
    simp only [reduceCtorEq, false_iff, not_and]
    intro hr
    exact absurd hr (h handle)

theorem afterSubmit_eq_ok {handle : String} :
    s.afterSubmit package answer = .ok handle ↔ ∃ response, answer = .ok response ∧
      response.get? "result" = some (.text handle) ∧ handle ≠ "" := by
  cases answer with
  | error cause => simp [afterSubmit]
  | ok response =>
    simp only [afterSubmit, Except.ok.injEq, exists_eq_left', ← handleIn_eq_some]
    cases handleIn response <;> simp

/-- A submission that leads to no task failed, or its answer names no handle. -/
theorem afterSubmit_eq_error {fault : SolveFault}
    (h : s.afterSubmit package answer = .error fault) :
    (∃ cause, answer = .error cause ∧ fault = .submission cause) ∨
      ∃ response, answer = .ok response ∧ handleIn response = none ∧
        fault = .noHandle (Url.solve s.base package) := by
  cases answer with
  | error cause => exact .inl ⟨cause, rfl, (Except.error.inj h).symm⟩
  | ok response =>
    simp only [afterSubmit] at h
    split at h
    next => simp at h
    next hn => exact .inr ⟨response, rfl, hn, (Except.error.inj h).symm⟩

end Solver

end PlanCourier

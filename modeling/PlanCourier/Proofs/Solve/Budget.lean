import PlanCourier.Proofs.Solve.Course

/-!
# Answers and budget

How many checks a solve makes and how it ends, read off the answers that it gets.

Main statements:

- `calls_of_polling`: the first verdict within the budget is the last answer that is asked for;
- `calls_and_result_of_solve`: the calls and the result of a solve that nobody stops.
-/

namespace PlanCourier

/-- A call together with its reply. -/
def Deed.exchange? : Deed → Option (Call × Reply)
  | .called call reply => some (call, reply)
  | _ => none

/-- The calls in an account, each with its reply. -/
def exchanges (account : List (Nat × Deed)) : List (Call × Reply) :=
  account.filterMap fun e => e.2.exchange?

/-- The calls of the run at this position, each with its reply. -/
def Desk.exchanges (d : Desk) (run : Nat) : List (Call × Reply) :=
  PlanCourier.exchanges (d.account run)

@[simp] theorem exchanges_called (now : Nat) (call : Call) (reply : Reply)
    (account : List (Nat × Deed)) :
    exchanges ((now, .called call reply) :: account) = (call, reply) :: exchanges account := rfl

@[simp] theorem exchanges_told (now : Nat) (notice : Notice) (account : List (Nat × Deed)) :
    exchanges ((now, .told notice) :: account) = exchanges account := rfl

@[simp] theorem exchanges_close (job : Appointment) (now : Nat)
    (result : Except SolveFault Outcome) :
    exchanges (job.close now result) = [] := by
  simp only [exchanges, Appointment.close, Run.closing, List.map_append, List.filterMap_append]
  split <;> simp [Deed.exchange?, List.filterMap_map, Function.comp_def]

/-! ## The loop -/

/-- What the answers from the `n`-th on make of a loop that has `m` checks in all, `n` of them
before: which result, after how many checks. -/
structure Verdicts (s : Solver) (handle : String) (answers : Nat → Except ServiceFault Json)
    (n m : Nat) (checks : Nat) (result : Except SolveFault Outcome) : Prop where
  settled : ∀ k r, n ≤ k → k < m → (∀ j, n ≤ j → j < k → s.verdict handle (answers j) = none) →
    s.verdict handle (answers k) = some r → n + checks = k + 1 ∧ result = r
  exhausted : (∀ j, n ≤ j → j < m → s.verdict handle (answers j) = none) →
    n + checks = m ∧ ∃ attempts : UInt32, attempts.toNat = m ∧ result = .ok (.timedOut attempts)

namespace Verdicts

variable {s : Solver} {handle : String} {answers : Nat → Except ServiceFault Json} {n m : Nat}

theorem of_verdict {result : Except SolveFault Outcome} (hn : n < m)
    (h : s.verdict handle (answers n) = some result) :
    Verdicts s handle answers n m 1 result := by
  constructor
  · intro k r hk hkm hbefore hv
    rcases Nat.eq_or_lt_of_le hk with rfl | hlt
    · rw [h] at hv
      exact ⟨rfl, Option.some.inj hv⟩
    · simp [hbefore n (Nat.le_refl n) hlt] at h
  · intro hall
    simp [hall n (Nat.le_refl n) hn] at h

theorem of_exhausted {attempts : UInt32} (hm : n + 1 = m) (ha : attempts.toNat = m)
    (h : s.verdict handle (answers n) = none) :
    Verdicts s handle answers n m 1 (.ok (.timedOut attempts)) := by
  constructor
  · intro k r hk hkm hbefore hv
    obtain rfl : n = k := by omega
    simp [h] at hv
  · intro _
    exact ⟨hm, attempts, ha, rfl⟩

theorem of_running {checks : Nat} {result : Except SolveFault Outcome}
    (h : s.verdict handle (answers n) = none)
    (rest : Verdicts s handle answers (n + 1) m checks result) :
    Verdicts s handle answers n m (checks + 1) result := by
  constructor
  · intro k r hk hkm hbefore hv
    rcases Nat.eq_or_lt_of_le hk with rfl | hlt
    · simp [h] at hv
    · obtain ⟨hchecks, hr⟩ := rest.settled k r hlt hkm (fun j hj => hbefore j (by omega)) hv
      exact ⟨by omega, hr⟩
  · intro hall
    obtain ⟨hchecks, hr⟩ := rest.exhausted fun j hj => hall j (by omega)
    exact ⟨by omega, hr⟩

end Verdicts

/-- A loop that nobody stops makes one check after another, up to the first verdict or to the end of
its budget. -/
theorem calls_of_polling {s : TimedSolver} {job : Appointment} (hstop : job.stop = none)
    {last : Nat} {a : Attempt} {deeds : List (Nat × Deed)} {result : Except SolveFault Outcome}
    (h : Polling s job last a deeds result) (hn : a.number.toNat < max 1 a.budget.toNat)
    {answers : Nat → Except ServiceFault Json}
    (hanswers : ∀ j call reply, (exchanges deeds)[j]? = some (call, reply) →
      reply.answer = answers (a.number.toNat + j)) :
    (∀ check ∈ exchanges deeds, check.1 = .check a.handle s.adaptor) ∧
      Verdicts s.toSolver a.handle answers a.number.toNat (max 1 a.budget.toNat)
        (exchanges deeds).length result := by
  -- by induction on the course; the number of the attempt is the index of the next answer
  induction h with
  | idle h => simp [Appointment.cut_of_unstopped hstop] at h
  | unheard _ _ h => simp [Appointment.cut_of_unstopped hstop] at h
  | @settled last sent a reply result _ _ _ h =>
    rw [exchanges_called, exchanges_close] at hanswers ⊢
    have hreply : reply.answer = answers a.number.toNat := hanswers 0 _ _ rfl
    refine ⟨by simp, ?_⟩
    rcases Solver.afterCheck_eq_ended.1 h with hv | ⟨hv, hx, rfl⟩
    · exact .of_verdict hn (hreply ▸ hv)
    · have hm := (Attempt.isExhausted_next hn).1 hx
      have hnext := Attempt.toNat_next_of_lt hn
      exact .of_exhausted hm (hnext.trans hm) (hreply ▸ hv)
  | @again last sent a b reply deeds result _ _ _ h rest ih =>
    rw [exchanges_called, exchanges_told] at hanswers ⊢
    have hreply : reply.answer = answers a.number.toNat := hanswers 0 _ _ rfl
    obtain ⟨hv, hx, rfl⟩ := Solver.afterCheck_eq_wait.1 h
    have hnext := Attempt.toNat_next_of_lt hn
    have hbefore : ∀ j call reply, (exchanges deeds)[j]? = some (call, reply) →
        reply.answer = answers (a.next.number.toNat + j) := by
      intro j call reply hj
      rw [hanswers (j + 1) call reply hj, hnext]
      congr 1
      omega
    obtain ⟨hchecks, hv'⟩ := ih (Attempt.next_lt_of_not_isExhausted hn hx) hbefore
    rw [hnext] at hv'
    exact ⟨List.forall_mem_cons.2 ⟨rfl, hchecks⟩, .of_running (hreply ▸ hv) hv'⟩

/-! ## The whole solve -/

/-- What a solve calls and brings back if nobody stops it and nobody else polls its task. It submits
once. A fault of the submission, or an answer without a handle, is its result, and it checks
nothing. Else it checks the task under that handle up to the first verdict, the result of which is
its own, or to the end of its budget, which is at least one check. -/
theorem calls_and_result_of_solve (base adaptor : String) (interval : UInt64) (limit : UInt32)
    (timer : Timer) (service : TimedService) (jobs : List Appointment) (i : Nat) (package : String)
    (request : Request) (start : Nat)
    (hjob : jobs[i]? = some (.solve package request start none))
    (answers : Nat → Except ServiceFault Json)
    (hanswers : ∀ j call reply,
      ((Schedule.run ⟨⟨base, adaptor, .of interval limit⟩, timer⟩ service jobs).1.exchanges
        i)[j + 1]? = some (call, reply) → reply.answer = answers j) :
    let s : TimedSolver := ⟨⟨base, adaptor, .of interval limit⟩, timer⟩
    let m := max 1 limit.toNat
    let course := Schedule.run s service jobs
    ∃ first checks result,
      course.1.exchanges i = (.submit package request, first) :: checks ∧
      course.2[i]? = some ⟨.solve package request start none, .closed (result.map .outcome)⟩ ∧
      (∀ cause, first.answer = .error cause →
        checks = [] ∧ result = .error (.submission cause)) ∧
      (∀ response, first.answer = .ok response →
        (¬ ∃ handle, handle ≠ "" ∧ response.get? "result" = some (.text handle)) →
        checks = [] ∧ result = .error (.noHandle (Url.solve base package))) ∧
      (∀ response handle, first.answer = .ok response →
        response.get? "result" = some (.text handle) → handle ≠ "" →
        Schedule.SolePoller s service (Schedule.outset jobs) i handle →
        (∀ check ∈ checks, check.1 = .check handle adaptor) ∧
        (∀ k r, k < m → (∀ j < k, s.verdict handle (answers j) = none) →
          s.verdict handle (answers k) = some r → checks.length = k + 1 ∧ result = r) ∧
        ((∀ j < m, s.verdict handle (answers j) = none) → checks.length = m ∧
          ∃ attempts : UInt32, attempts.toNat = m ∧ result = .ok (.timedOut attempts))) := by
  intro s m course
  obtain ⟨deeds, result, hs, haccount, hruns, hsole⟩ :=
    Schedule.exists_solving_run s service hjob
  rw [Desk.exchanges, haccount] at hanswers ⊢
  cases hs with
  | @unstarted first fault h =>
    rw [exchanges_called, exchanges_close]
    refine ⟨first, [], _, rfl, hruns, ?_, ?_, ?_⟩
    · intro cause hc
      rcases Solver.afterSubmit_eq_error h with ⟨_, ha, rfl⟩ | ⟨_, ha, -, -⟩
      · obtain rfl := Except.error.inj (hc.symm.trans ha)
        exact ⟨rfl, rfl⟩
      · simp [hc] at ha
    · intro response hr _
      rcases Solver.afterSubmit_eq_error h with ⟨_, ha, -⟩ | ⟨_, -, -, rfl⟩
      · simp [hr] at ha
      · exact ⟨rfl, rfl⟩
    · intro response handle hr hh hne _
      have ho : s.afterSubmit package first.answer = .ok handle :=
        Solver.afterSubmit_eq_ok.2 ⟨response, hr, hh, hne⟩
      simp [h] at ho
  | @refused first handle h =>
    obtain ⟨response, hr, hh, hne⟩ := Solver.afterSubmit_eq_ok.1 h
    rw [exchanges_called, exchanges_told, exchanges_close]
    refine ⟨first, [], _, rfl, hruns, ?_, ?_, ?_⟩
    · intro cause hc
      simp [hc] at hr
    · intro other ho hno
      obtain rfl := Except.ok.inj (hr.symm.trans ho)
      exact absurd ⟨handle, hne, hh⟩ hno
    · intro other handle' ho hh' _ hsole'
      obtain rfl := Except.ok.inj (hr.symm.trans ho)
      obtain rfl := Json.text.inj (Option.some.inj (hh.symm.trans hh'))
      exact absurd rfl (hsole handle hsole')
  | @polled first handle deeds result h rest =>
    obtain ⟨response, hr, hh, hne⟩ := Solver.afterSubmit_eq_ok.1 h
    rw [exchanges_called, exchanges_told] at hanswers ⊢
    refine ⟨first, exchanges deeds, result, rfl, hruns, ?_, ?_, ?_⟩
    · intro cause hc
      simp [hc] at hr
    · intro other ho hno
      obtain rfl := Except.ok.inj (hr.symm.trans ho)
      exact absurd ⟨handle, hne, hh⟩ hno
    · intro other handle' ho hh' _ _
      obtain rfl := Except.ok.inj (hr.symm.trans ho)
      obtain rfl := Json.text.inj (Option.some.inj (hh.symm.trans hh'))
      have hm : max 1 (s.policy.start handle).budget.toNat = m := by
        have hb := PollPolicy.toNat_budget_of interval limit
        show max 1 (PollPolicy.of interval limit).budget.toNat = m
        omega
      have hpos : (s.policy.start handle).number.toNat < m :=
        Nat.lt_of_lt_of_le Nat.one_pos (Nat.le_max_left 1 _)
      have hbefore : ∀ j call reply, (exchanges deeds)[j]? = some (call, reply) →
          reply.answer = answers ((s.policy.start handle).number.toNat + j) := by
        intro j call reply hj
        rw [hanswers j call reply hj]
        exact congrArg answers (Nat.zero_add j).symm
      obtain ⟨hchecks, hv⟩ := calls_of_polling rfl rest (hm ▸ hpos) hbefore
      rw [hm] at hv
      refine ⟨hchecks, fun k r hk hall hr => ?_, fun hall => ?_⟩
      · have hd := hv.settled k r (Nat.zero_le k) hk (fun j _ hj => hall j hj) hr
        exact ⟨(Nat.zero_add _).symm.trans hd.1, hd.2⟩
      · have hd := hv.exhausted fun j _ hj => hall j hj
        exact ⟨(Nat.zero_add _).symm.trans hd.1, hd.2⟩

/-- With three checks allowed, a verdict on the third one is still heard. -/
theorem verdict_on_last_check :
    (Schedule.run Sample.solver Sample.service [Sample.job none]).2[0]? =
      some ⟨Sample.job none, .closed (.ok (.outcome (.succeeded [.ofNames ["stack a b"]])))⟩ ∧
    ((Schedule.run Sample.solver Sample.service [Sample.job none]).1.exchanges 0).length =
      3 + 1 := by
  -- the sample service answers by the number of calls alone
  let answers (j : Nat) := (Sample.service (List.replicate (j + 1) (.check "" ""))).answer
  have hheard : ((Schedule.run Sample.solver Sample.service [Sample.job none]).1.exchanges 0).map
      (·.2.answer) = (List.range 4).map fun j =>
        (Sample.service (List.replicate (j + 1) (.check "" ""))).answer := by
    decide +kernel
  have hanswers : ∀ j call reply,
      ((Schedule.run Sample.solver Sample.service [Sample.job none]).1.exchanges 0)[j]? =
        some (call, reply) → reply.answer = answers j := by
    intro j call reply hj
    have hat := congrArg (·[j]?) hheard
    simp only [List.getElem?_map, hj, Option.map_some] at hat
    obtain ⟨k, hk, he⟩ := Option.map_eq_some_iff.1 hat.symm
    obtain ⟨hlt, hrange⟩ := List.getElem?_eq_some_iff.1 hk
    obtain rfl : j = k := by simpa using hrange
    exact he.symm
  obtain ⟨first, checks, result, hcalls, hruns, -, -, hpolled⟩ :=
    calls_and_result_of_solve "http://localhost:5001" Solver.defaultAdaptor 5000 3 .exact
      Sample.service [Sample.job none] 0 _ _ _ rfl (fun j => answers (j + 1)) fun j =>
      hanswers (j + 1)
  have hfirst : first.answer = .ok (.object [("result", .text "/t42")]) :=
    hanswers 0 (.submit _ _) first (congrArg (·[0]?) hcalls)
  obtain ⟨-, hsettled, -⟩ := hpolled _ "/t42" hfirst (by decide) (by decide)
    (Schedule.solePoller_singleton _ _)
  obtain ⟨hlength, rfl⟩ := hsettled 2 (.ok (.succeeded [.ofNames ["stack a b"]])) (by decide)
    (by
      intro j hj
      obtain rfl | rfl : j = 0 ∨ j = 1 := by omega
      · decide +kernel
      · decide +kernel)
    (by decide +kernel)
  refine ⟨hruns, ?_⟩
  exact (congrArg List.length hcalls).trans (congrArg (· + 1) hlength)

end PlanCourier

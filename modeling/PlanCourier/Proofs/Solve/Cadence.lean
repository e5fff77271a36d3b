import PlanCourier.Proofs.Solve.Notices

/-!
# When checks are sent

The clock of a loop that nobody stops. It waits a pause before every check and then for the answer,
so a check is sent one whole pause after the answer to the check before it, and never while that
answer is still on its way. With the answer that ends the loop there is nothing left to wait for.

Main statements:

- `timetable_of_polling`: the moments of a loop are the sums of its pauses and waits;
- `Timetable.next`: from one check to the next;
- `cadence_of_checks`: the moments of a solve, from the answer to its submission on.
-/

namespace PlanCourier

/-- How long the answers to checks take, all in all. -/
def answerTime : List (Nat × Reply) → Nat
  | [] => 0
  | (_, reply) :: sent => reply.delay + answerTime sent

@[simp] theorem answerTime_nil : answerTime [] = 0 := rfl

@[simp] theorem answerTime_cons (time : Nat) (reply : Reply) (sent : List (Nat × Reply)) :
    answerTime ((time, reply) :: sent) = reply.delay + answerTime sent := rfl

theorem answerTime_append (sent more : List (Nat × Reply)) :
    answerTime (sent ++ more) = answerTime sent + answerTime more := by
  induction sent with
  | nil => simp
  | cons c sent ih =>
    obtain ⟨time, reply⟩ := c
    rw [List.cons_append, answerTime_cons, answerTime_cons, ih, Nat.add_assoc]

/-- The moments of checks, and the moment at which it is over, for a loop that begins to wait at the
moment `last`. -/
structure Timetable (pause last : Nat) (sent : List (Nat × Reply)) (finish : Nat) : Prop where
  times : ∀ j time reply, sent[j]? = some (time, reply) →
    time = last + (j + 1) * pause + answerTime (sent.take j)
  finish : finish = last + sent.length * pause + answerTime sent

namespace Timetable

variable {pause last finish : Nat} {sent : List (Nat × Reply)}

theorem nil (pause last : Nat) : Timetable pause last [] last := ⟨by simp, by simp⟩

/-- One more check in front: a pause, the check, and the wait for its answer. -/
theorem cons {reply : Reply} (h : Timetable pause (last + pause + reply.delay) sent finish) :
    Timetable pause last ((last + pause, reply) :: sent) finish := by
  constructor
  · intro j time reply' hj
    cases j with
    | zero =>
      obtain ⟨rfl, -⟩ := Prod.mk.inj (Option.some.inj hj)
      simp
    | succ j =>
      have htime := h.times j time reply' hj
      rw [List.take_succ_cons, answerTime_cons, htime, Nat.succ_mul (j + 1)]
      omega
  · rw [List.length_cons, answerTime_cons, h.finish, Nat.succ_mul]
    omega

/-- A check is sent one pause after the answer to the check before it. -/
theorem next (h : Timetable pause last sent finish) {j time time' : Nat} {reply reply' : Reply}
    (hj : sent[j]? = some (time, reply)) (hj' : sent[j + 1]? = some (time', reply')) :
    time' = time + reply.delay + pause := by
  have htake : sent.take (j + 1) = sent.take j ++ [(time, reply)] := by
    rw [List.take_add_one, hj]
    rfl
  have hwait : answerTime (sent.take (j + 1)) = answerTime (sent.take j) + reply.delay := by
    rw [htake, answerTime_append]
    rfl
  rw [h.times (j + 1) time' reply' hj', h.times j time reply hj, hwait, Nat.succ_mul (j + 1)]
  omega

end Timetable

/-- A loop that nobody stops keeps to the timetable, and its last deed is at the end of it. -/
theorem timetable_of_polling {s : TimedSolver} {job : Appointment} (hstop : job.stop = none)
    {last : Nat} {a : Attempt} {deeds : List (Nat × Deed)} {result : Except SolveFault Outcome}
    (h : Polling s job last a deeds result) :
    ∃ finish, Timetable s.pause last (checks deeds) finish ∧
      deeds.getLast? = some (finish, .ended (result.map .outcome)) := by
  -- by induction on the course; each check stands in front of those that the rest of it sends
  induction h with
  | idle h => simp [Appointment.cut_of_unstopped hstop] at h
  | unheard _ _ h => simp [Appointment.cut_of_unstopped hstop] at h
  | @settled last sent a reply result hsent =>
    subst hsent
    refine ⟨last + s.pause + reply.delay, ?_, ?_⟩
    · rw [checks_checked, checks_close]
      exact (Timetable.nil _ _).cons
    · rw [List.getLast?_cons, job.getLast?_close]
      rfl
  | @again last sent a b reply deeds result hsent _ _ _ _ ih =>
    subst hsent
    obtain ⟨finish, htable, hlast⟩ := ih
    refine ⟨finish, ?_, ?_⟩
    · rw [checks_checked, checks_told]
      exact htable.cons
    · rw [List.getLast?_cons, List.getLast?_cons, hlast]
      rfl

/-- The moments of a solve that nobody stops and that waits with an exact timer, for every interval,
budget, and delay of the answers. Once the submission has led to a task, the check of index `j` is
sent after `j + 1` intervals and the answers to the checks before it. So it is sent a whole interval
after the answer before it, and no two checks are on their way together. The solve is over with the
answer to its last check, without another wait. -/
theorem cadence_of_checks (s : TimedSolver) (hexact : s.timer.IsExact) (service : TimedService)
    (jobs : List Appointment) (i : Nat) (package : String) (request : Request) (start : Nat)
    (hjob : jobs[i]? = some (.solve package request start none)) :
    let course := Schedule.run s service jobs
    let account := course.1.account i
    let sent := checks account
    let interval := s.policy.interval.toNat
    ∃ (first : Reply) (finish : Nat) (result : Except SolveFault Outcome),
      account.head? = some (start, .called (.submit package request) first) ∧
      account.getLast? = some (finish, .ended (result.map .outcome)) ∧
      course.2[i]? = some ⟨.solve package request start none, .closed (result.map .outcome)⟩ ∧
      ∀ handle, s.afterSubmit package first.answer = .ok handle →
        let arrival := start + first.delay
        (∀ j time reply, sent[j]? = some (time, reply) →
          time = arrival + (j + 1) * interval + answerTime (sent.take j)) ∧
        (∀ j time reply time' reply', sent[j]? = some (time, reply) →
          sent[j + 1]? = some (time', reply') → time' = time + reply.delay + interval) ∧
        finish = arrival + sent.length * interval + answerTime sent := by
  intro course account sent interval
  obtain ⟨deeds, result, hs, haccount, hruns, -⟩ :=
    Schedule.exists_solving_run s service hjob
  -- whatever course the solve takes, what matters is its timetable
  suffices h : ∃ first finish,
      deeds.head? = some (start, .called (.submit package request) first) ∧
      deeds.getLast? = some (finish, .ended (result.map .outcome)) ∧
      ∀ handle, s.afterSubmit package first.answer = .ok handle →
        Timetable interval (start + first.delay) (checks deeds) finish by
    obtain ⟨first, finish, hhead, hlast, htable⟩ := h
    have heq : account = deeds := haccount
    rw [← heq] at hhead hlast htable
    exact ⟨first, finish, result, hhead, hlast, hruns, fun handle hh =>
      ⟨(htable handle hh).times, fun _ _ _ _ _ => (htable handle hh).next,
        (htable handle hh).finish⟩⟩
  cases hs with
  | @unstarted first fault h =>
    refine ⟨first, start + first.delay, rfl, ?_, fun handle hh => ?_⟩
    · rw [List.getLast?_cons, Appointment.getLast?_close]
      rfl
    · simp [h] at hh
  | @refused first handle h =>
    refine ⟨first, start + first.delay, rfl, ?_, fun _ _ => ?_⟩
    · rw [List.getLast?_cons, List.getLast?_cons, Appointment.getLast?_close]
      rfl
    · rw [checks_submitted, checks_told, checks_close]
      exact .nil _ _
  | @polled first handle deeds _ h rest =>
    obtain ⟨finish, htable, hlast⟩ := timetable_of_polling rfl rest
    rw [TimedSolver.pause_of_isExact hexact] at htable
    refine ⟨first, finish, rfl, ?_, fun _ _ => ?_⟩
    · rw [List.getLast?_cons, List.getLast?_cons, hlast]
      rfl
    · rw [checks_submitted, checks_told]
      exact htable

/-- What the sample solve does if nobody stops it. -/
def Sample.account : List (Nat × Deed) :=
  (Schedule.run Sample.solver Sample.service [Sample.job none]).1.account 0

/-- Its submission takes 20 milliseconds and the answer to each check 7: the third check is sent
after three intervals and two answers, and the solve is over with the third answer. -/
theorem cadence_of_late_answers :
    (∃ reply, (checks Sample.account)[2]? = some (20 + 3 * 5000 + (7 + 7), reply)) ∧
    ∃ result, Sample.account.getLast? = some (20 + 3 * 5000 + (7 + 7 + 7), .ended result) := by
  have haccount : (Schedule.run Sample.solver Sample.service [Sample.job none]).1.account 0 =
    Sample.account := rfl
  have hwaits : (checks Sample.account).map (·.2.delay) = [7, 7, 7] := by decide +kernel
  have hfirst : Sample.account.head?.map Prod.snd = some (.called
      (.submit "lama-first" (.ofDocuments "(domain)" "(problem)"))
      ⟨20, .ok (.object [("result", .text "/t42")])⟩) := by decide +kernel
  have hinterval : Sample.solver.policy.interval.toNat = 5000 := by decide
  obtain ⟨first, finish, result, hhead, hlast, -, htask⟩ :=
    cadence_of_checks Sample.solver Timer.isExact_exact Sample.service [Sample.job none] 0 _ _ _ rfl
  simp only [haccount, hinterval] at hhead hlast htask
  rw [hhead] at hfirst
  obtain ⟨-, rfl⟩ := Deed.called.inj (Option.some.inj hfirst)
  obtain ⟨htimes, -, hfinish⟩ := htask "/t42" (by decide)
  obtain ⟨⟨time, reply⟩, hthird, -⟩ :
      ∃ c, (checks Sample.account)[2]? = some c ∧ c.2.delay = 7 := by
    have h := congrArg (·[2]?) hwaits
    simpa using h
  have hlength : (checks Sample.account).length = 3 := by
    have h := congrArg List.length hwaits
    simpa using h
  have htake : answerTime ((checks Sample.account).take 2) = 7 + 7 := by decide +kernel
  have hall : answerTime (checks Sample.account) = 7 + 7 + 7 := by decide +kernel
  refine ⟨⟨reply, ?_⟩, result.map .outcome, ?_⟩
  · rw [hthird, htimes 2 time reply hthird, htake]
    rfl
  · rw [hlast, hfinish, hlength, hall]
    rfl

end PlanCourier

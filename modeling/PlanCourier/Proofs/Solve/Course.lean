import PlanCourier.Proofs.Solve.Interleaving
import PlanCourier.Proofs.Solve.Turns

/-!
# The course of a solve

What a solve does from its submission to its end, said without the desk and without the other runs:
`Polling` is the course of a loop, one case for each way in which a check comes out, and `Solving`
the course of a whole solve.

Main statements:

- `takesCourse` and `exists_solving`: among any other runs, a loop and a solve take one of these
  courses;
- `exists_solving_run`: so it does in the schedule of its appointments, and it is refused only while
  another run polls its task.
-/

namespace PlanCourier

/-- When the wait from `last` until `due` is broken off, if it is. -/
def Appointment.cut (job : Appointment) (last due : Nat) : Option Nat :=
  job.stop.bind fun stop => if stop ≤ due then some (max last stop) else none

theorem Appointment.cut_of_unstopped {job : Appointment} (h : job.stop = none) (last due : Nat) :
    job.cut last due = none := by
  rw [cut, h]
  rfl

/-- The last deeds of an errand, at their moment. -/
def Appointment.close (job : Appointment) (now : Nat) (result : Except SolveFault Outcome) :
    List (Nat × Deed) := (Run.closing job result).map (now, ·)

theorem Appointment.getLast?_close (job : Appointment) (now : Nat)
    (result : Except SolveFault Outcome) :
    (job.close now result).getLast? = some (now, .ended (result.map .outcome)) := by
  simp [close, Run.closing]

theorem Appointment.time_of_mem_close {job : Appointment} {now : Nat}
    {result : Except SolveFault Outcome} {e : Nat × Deed} (h : e ∈ job.close now result) :
    e.1 = now := by
  obtain ⟨deed, -, rfl⟩ := List.mem_map.1 h
  rfl

/-- The course of a loop from an attempt on; the turn before was at the moment `last`. -/
inductive Polling (s : TimedSolver) (job : Appointment) :
    Nat → Attempt → List (Nat × Deed) → Except SolveFault Outcome → Prop
  /-- It is stopped before it checks. -/
  | idle {last now : Nat} {a : Attempt} (h : job.cut last (last + s.pause) = some now) :
      Polling s job last a (job.close now (.ok .cancelled)) (.ok .cancelled)
  /-- It is stopped before it hears the answer. -/
  | unheard {last sent now : Nat} {a : Attempt} {reply : Reply}
      (hsent : sent = last + s.pause) (hw : job.cut last sent = none)
      (h : job.cut sent (sent + reply.delay) = some now) :
      Polling s job last a
        ((sent, .called (.check a.handle s.adaptor) reply) :: job.close now (.ok .cancelled))
        (.ok .cancelled)
  /-- The answer ends it. -/
  | settled {last sent : Nat} {a : Attempt} {reply : Reply} {result : Except SolveFault Outcome}
      (hsent : sent = last + s.pause) (hw : job.cut last sent = none)
      (hc : job.cut sent (sent + reply.delay) = none)
      (h : s.afterCheck a reply.answer = .ended result) :
      Polling s job last a
        ((sent, .called (.check a.handle s.adaptor) reply) ::
          job.close (sent + reply.delay) result) result
  /-- It goes on after the answer. -/
  | again {last sent : Nat} {a b : Attempt} {reply : Reply} {deeds : List (Nat × Deed)}
      {result : Except SolveFault Outcome} (hsent : sent = last + s.pause)
      (hw : job.cut last sent = none) (hc : job.cut sent (sent + reply.delay) = none)
      (h : s.afterCheck a reply.answer = .wait b)
      (rest : Polling s job (sent + reply.delay) b deeds result) :
      Polling s job last a
        ((sent, .called (.check a.handle s.adaptor) reply) ::
          (sent + reply.delay, .told (.stillSolving s.policy)) :: deeds) result

abbrev Appointment.solve (package : String) (request : Request) (start : Nat)
    (stop : Option Nat) : Appointment := ⟨.solve package request, start, stop⟩

inductive Solving (s : TimedSolver) (package : String) (request : Request) (start : Nat)
    (stop : Option Nat) : List (Nat × Deed) → Except SolveFault Outcome → Prop
  /-- The submission leads to no task. -/
  | unstarted {first : Reply} {fault : SolveFault}
      (h : s.afterSubmit package first.answer = .error fault) :
      Solving s package request start stop
        ((start, .called (.submit package request) first) ::
          (Appointment.solve package request start stop).close (start + first.delay)
            (.error fault))
        (.error fault)
  /-- Another loop polls the task. -/
  | refused {first : Reply} {handle : String}
      (h : s.afterSubmit package first.answer = .ok handle) :
      Solving s package request start stop
        ((start, .called (.submit package request) first) ::
          (start + first.delay, .told .initiated) ::
          (Appointment.solve package request start stop).close (start + first.delay)
            (.error (.alreadyPolling handle)))
        (.error (.alreadyPolling handle))
  | polled {first : Reply} {handle : String} {deeds : List (Nat × Deed)}
      {result : Except SolveFault Outcome} (h : s.afterSubmit package first.answer = .ok handle)
      (rest : Polling s (.solve package request start stop) (start + first.delay)
        (s.policy.start handle) deeds result) :
      Solving s package request start stop
        ((start, .called (.submit package request) first) ::
          (start + first.delay, .told .initiated) :: deeds)
        result

namespace Run

variable {s : TimedSolver} {job : Appointment} {last due now : Nat}

/-! ## Waits that are broken off -/

theorem moment_of_cut (h : job.cut last due = some now) :
    max last (sooner due job.stop) = now ∧ isStopped job now = true := by
  unfold Appointment.cut at h
  cases hs : job.stop with
  | none => simp [hs] at h
  | some stop =>
    simp only [hs, Option.bind_some] at h
    split at h
    next hle =>
      obtain rfl := Option.some.inj h
      refine ⟨by simp [sooner, Nat.min_eq_right hle], ?_⟩
      rw [isStopped, hs]
      exact decide_eq_true (Nat.le_max_right ..)
    next => simp at h

theorem moment_of_not_cut (h : job.cut last due = none) (hle : last ≤ due) :
    max last (sooner due job.stop) = due ∧ isStopped job due = false := by
  unfold Appointment.cut at h
  cases hs : job.stop with
  | none => simp [sooner, isStopped, hs, Nat.max_eq_right hle]
  | some stop =>
    simp only [hs, Option.bind_some] at h
    split at h
    next => simp at h
    next hlt =>
      have hmin : min due stop = due := Nat.min_eq_left (by omega)
      refine ⟨by simp [sooner, hmin, Nat.max_eq_right hle], ?_⟩
      simp [isStopped, hs]
      omega

/-! ## The turns of a loop -/

theorem turn_of_cut {stage : Stage} {a : Attempt}
    (hstage : stage = .waiting due a ∨ ∃ answer, stage = .checking due a answer)
    (h : isStopped job now = true) (f : Setting) :
    turn s job now f stage = leave job f.claims a.handle (.ok .cancelled) := by
  rcases hstage with rfl | ⟨answer, rfl⟩ <;> simp [turn, h]

theorem turn_waiting (h : isStopped job now = false) (a : Attempt) (f : Setting) :
    turn s job now f (.waiting due a) =
      ask now f (.check a.handle s.adaptor) fun due answer => .checking due a answer := by
  simp [turn, h]

theorem turn_settled (h : isStopped job now = false) {a : Attempt}
    {answer : Except ServiceFault Json} {result : Except SolveFault Outcome}
    (ha : s.afterCheck a answer = .ended result) (f : Setting) :
    turn s job now f (.checking due a answer) = leave job f.claims a.handle result := by
  simp [turn, h, ha]

theorem turn_again (h : isStopped job now = false) {a b : Attempt}
    {answer : Except ServiceFault Json} (ha : s.afterCheck a answer = .wait b) (f : Setting) :
    turn s job now f (.checking due a answer) =
      ⟨[.told (.stillSolving s.policy)], f.claims, .waiting (now + s.pause) b⟩ := by
  simp [turn, h, ha]

/-- A turn looks at the order to stop only while the loop runs. -/
theorem turn_congr {job' : Appointment} (he : job'.errand = job.errand) {stage : Stage}
    (hs : stage.polled = none ∨ isStopped job' now = isStopped job now) (f : Setting) :
    turn s job' now f stage = turn s job now f stage := by
  have hfinish : ∀ claims deeds result,
      finish job' claims deeds result = finish job claims deeds result := by
    intro claims deeds result
    simp only [finish, closing, he]
  have henter : ∀ claims deeds handle,
      enter s job' now claims deeds handle = enter s job now claims deeds handle := by
    intro claims deeds handle
    unfold enter
    split
    · apply hfinish
    · rfl
  cases stage with
  | before | submitting => simp only [turn, he, hfinish, henter]
  | waiting | checking =>
    rcases hs with hs | hs
    · simp [Stage.polled] at hs
    · simp only [turn, leave, hs, hfinish]
  | closed => rfl

theorem turn_unstarted {package : String} {answer : Except ServiceFault Json} {fault : SolveFault}
    (h : s.afterSubmit package answer = .error fault) (f : Setting) :
    turn s job now f (.submitting due package answer) = finish job f.claims [] (.error fault) := by
  simp [turn, h]

theorem turn_started {package : String} {answer : Except ServiceFault Json} {handle : String}
    (hp : job.errand.polls = true) (ht : job.errand.isTold = true)
    (h : s.afterSubmit package answer = .ok handle) (f : Setting) :
    turn s job now f (.submitting due package answer) =
      enter s job now f.claims [.told .initiated] handle := by
  simp [turn, h, hp, ht]

end Run

namespace Schedule

/-! ## The loop among other runs -/

section
variable (s : TimedSolver) (service : TimedService) (job : Appointment)

/-- Among any other runs, the loop takes a course of a loop from this attempt on. -/
def TakesCourse (a : Attempt) : Prop :=
  ∀ (last : Nat) (d : Desk) (earlier later : List Run), last ≤ d.now →
    d.now ≤ max last (Run.sooner (last + s.pause) job.stop) →
    ∃ deeds result, Polling s job last a deeds result ∧
      Yields s service d earlier ⟨job, .waiting (last + s.pause) a⟩ later deeds
        (result.map .outcome)

/-- The half of a course from the moment on at which a check is sent. -/
theorem exists_checked {a : Attempt} (ih : ∀ b, b.left < a.left → TakesCourse s service job b)
    (sent : Nat) (reply : Reply) (d : Desk) (earlier later : List Run) (hlast : sent ≤ d.now)
    (hnow : d.now ≤ max sent (Run.sooner (sent + reply.delay) job.stop)) :
    ∃ deeds result,
      (∀ last, sent = last + s.pause → job.cut last sent = none →
        Polling s job last a ((sent, .called (.check a.handle s.adaptor) reply) :: deeds)
          result) ∧
      Yields s service d earlier ⟨job, .checking (sent + reply.delay) a reply.answer⟩ later deeds
        (result.map .outcome) := by
  obtain ⟨d₁, d₂, earlier₁, later₁, hnow₂, hturn⟩ :=
    exists_turn s service ⟨job, .checking (sent + reply.delay) a reply.answer⟩ rfl d earlier later
      hlast hnow
  dsimp only at hturn
  cases hc : job.cut sent (sent + reply.delay) with
  | some now =>
    obtain ⟨hmoment, hstop⟩ := Run.moment_of_cut hc
    rw [hmoment, Run.turn_of_cut (.inr ⟨_, rfl⟩) hstop] at hturn
    exact ⟨_, _, fun _ hsent hw => .unheard hsent hw hc, .of_last hturn⟩
  | none =>
    obtain ⟨hmoment, hgo⟩ := Run.moment_of_not_cut hc (Nat.le_add_right ..)
    rw [hmoment] at hturn hnow₂
    cases ha : s.afterCheck a reply.answer with
    | ended result =>
      rw [Run.turn_settled hgo ha] at hturn
      exact ⟨_, _, fun _ hsent hw => .settled hsent hw hc ha, .of_last hturn⟩
    | wait b =>
      rw [Run.turn_again hgo ha] at hturn
      obtain ⟨deeds, result, hp, hy⟩ := ih b (Solver.left_lt_of_afterCheck ha)
        (sent + reply.delay) d₂ earlier₁ later₁ (by omega) (by omega)
      exact ⟨_, _, fun _ hsent hw => .again hsent hw hc ha hp, hturn _ _ hy⟩

theorem takesCourse (a : Attempt) : TakesCourse s service job a := by
  -- a loop that goes on has less of its budget left
  generalize hn : a.left = n
  induction n using Nat.strongRecOn generalizing a with
  | ind n ih =>
    subst hn
    intro last d earlier later hlast hnow
    obtain ⟨d₁, d₂, earlier₁, later₁, hnow₂, hturn⟩ :=
      exists_turn s service ⟨job, .waiting (last + s.pause) a⟩ rfl d earlier later hlast
        hnow
    dsimp only at hturn
    cases hw : job.cut last (last + s.pause) with
    | some now =>
      obtain ⟨hmoment, hstop⟩ := Run.moment_of_cut hw
      rw [hmoment, Run.turn_of_cut (.inl rfl) hstop] at hturn
      exact ⟨_, _, .idle hw, .of_last hturn⟩
    | none =>
      obtain ⟨hmoment, hgo⟩ := Run.moment_of_not_cut hw (Nat.le_add_right ..)
      rw [hmoment, Run.turn_waiting hgo] at hturn
      rw [hmoment] at hnow₂
      obtain ⟨deeds, result, hp, hy⟩ := exists_checked s service job
        (fun b hb => ih _ hb b rfl) (last + s.pause)
        ((d₁.setting service).reply (.check a.handle s.adaptor)) d₂ earlier₁ later₁
        (by omega) (by omega)
      exact ⟨_, _, hp last rfl hw, hturn _ _ hy⟩

end

/-! ## Who polls the task -/

variable {s : TimedSolver} {service : TimedService} {job : Appointment}

/-- No other run than the one at this position polls the handle, at no time from this state on. -/
def SolePoller (s : TimedSolver) (service : TimedService) (start : Desk × List Run) (position : Nat)
    (handle : String) : Prop :=
  ∀ state, Visits s service start state → ∀ i r, i ≠ position → state.2[i]? = some r →
    r.stage.polled ≠ some handle

theorem solePoller_singleton (job : Appointment) (handle : String) :
    SolePoller s service (.quiet, [⟨job, .before⟩]) 0 handle := by
  intro state hv i r hi hr
  have hlt : i < state.2.length := (List.getElem?_eq_some_iff.1 hr).1
  have hlen : state.2.length = 1 := length_of_visits hv
  omega

theorem Guarded.of_visits {start state : Desk × List Run} (h : Visits s service start state)
    (g : Guarded start.1 start.2) : Guarded state.1 state.2 := by
  induction h with
  | refl => exact g
  | @tail x y _ hm ih =>
    obtain ⟨p, hp, rfl⟩ := hm
    exact Guarded.act service ((eq_of_pick hp).1 ▸ ih)

/-- A handle that nobody else polls is free as long as the run itself does not poll it. -/
theorem not_mem_claims {start : Desk × List Run} {d : Desk} {earlier later : List Run} {r : Run}
    {handle : String} (g : Guarded start.1 start.2)
    (hsole : SolePoller s service start earlier.length handle)
    (hv : Visits s service start (d, earlier ++ r :: later)) (hr : r.stage.polled = none) :
    handle ∉ d.claims := by
  intro hm
  obtain ⟨x, hx, hpolled⟩ := (Guarded.of_visits hv g).mem_claims.1 hm
  obtain ⟨i, hi⟩ := List.mem_iff_getElem?.1 hx
  by_cases hne : i = earlier.length
  · subst hne
    obtain rfl : r = x := by simpa using hi
    simp [hr] at hpolled
  · exact hsole _ hv i x hne hi hpolled

theorem fault_of_polling {last : Nat} {a : Attempt} {deeds : List (Nat × Deed)}
    {result : Except SolveFault Outcome} (h : Polling s job last a deeds result)
    {fault : SolveFault} (hf : result = .error fault) : ∃ url cause, fault = .check url cause := by
  induction h with
  | idle | unheard => simp at hf
  | settled _ _ _ h =>
    subst hf
    rcases Solver.afterCheck_eq_ended.1 h with hv | ⟨-, -, hr⟩
    · exact Solver.fault_of_verdict hv
    · simp at hr
  | again _ _ _ _ _ ih => exact ih hf

/-! ## The solve among other runs -/

/-- Among any other runs, a solve hears the answer to its submission, and in its turn then its loop
starts, if it does. Up to there it makes no difference when it is to be stopped. -/
theorem exists_submission (s : TimedSolver) (service : TimedService) (package : String)
    (request : Request) (start : Nat) (stop stop' : Option Nat) (d : Desk)
    (earlier later : List Run) (hnow : d.now ≤ start) :
    ∃ (first : Reply) (d₁ d₂ : Desk) (earlier₁ later₁ : List Run) (t : Turn),
      t = Run.turn s (.solve package request start stop) (start + first.delay)
        (d₁.setting service) (.submitting (start + first.delay) package first.answer) ∧
      earlier₁.length = earlier.length ∧
      Visits s service (d, earlier ++ ⟨.solve package request start stop, .before⟩ :: later)
        (d₁, earlier₁ ++ ⟨.solve package request start stop,
          .submitting (start + first.delay) package first.answer⟩ :: later₁) ∧
      d₂.now = start + first.delay ∧
      ∀ o, o = stop ∨ o = stop' → ∀ deeds result,
        Yields s service d₂ earlier₁ ⟨.solve package request start o, t.stage⟩ later₁ deeds
          result →
        Yields s service d earlier ⟨.solve package request start o, .before⟩ later
          ((start, .called (.submit package request) first) ::
            (t.deeds.map (start + first.delay, ·) ++ deeds)) result := by
  have hsame : ∀ now stage f, stage.polled = none →
      Run.turn s (.solve package request start stop') now f stage =
        Run.turn s (.solve package request start stop) now f stage := by
    intro now stage f hs
    have he : (Appointment.solve package request start stop').errand =
        (Appointment.solve package request start stop).errand := rfl
    exact Run.turn_congr he (.inl hs) f
  obtain ⟨d₁, d₂, earlier₁, later₁, hlen₁, -, hv₁, hnow₂, hturn⟩ :=
    exists_turns s service (.solve package request start stop)
      (.solve package request start stop') .before rfl rfl (fun f => hsame _ .before f rfl) d
      earlier later (Nat.zero_le _) (Nat.le_trans hnow (Nat.le_max_right ..))
  rw [Nat.zero_max] at hturn hnow₂ hv₁
  obtain ⟨d₃, d₄, earlier₂, later₂, hlen₂, hv₂, -, hnow₄, hturn₂⟩ :=
    exists_turns s service (.solve package request start stop)
      (.solve package request start stop') _ rfl rfl
      (fun f => hsame _ (.submitting _ _ _) f rfl) d₂ earlier₁ later₁ (Nat.le_of_eq hnow₂.symm)
      (Nat.le_trans (Nat.le_of_eq hnow₂) (Nat.le_max_left ..))
  rw [Nat.max_eq_right (Nat.le_add_right ..)] at hturn₂ hnow₄
  refine ⟨_, d₃, d₄, earlier₂, later₂, _, rfl, hlen₂.trans hlen₁, hv₁.trans hv₂, hnow₄, ?_⟩
  intro o ho deeds result hy
  have hjob : (Appointment.solve package request start o) = .solve package request start stop ∨
      (Appointment.solve package request start o) = .solve package request start stop' := by
    rcases ho with rfl | rfl
    · exact .inl rfl
    · exact .inr rfl
  exact hturn _ hjob _ _ (hturn₂ _ hjob _ _ hy)

/-- Among any other runs, a solve takes a course of a solve. If nobody else polls its task, it is
not refused. -/
theorem exists_solving (s : TimedSolver) (service : TimedService) {package : String}
    {request : Request} {start : Nat} {stop : Option Nat} {d : Desk} {earlier later : List Run}
    (hnow : d.now ≤ start)
    (g : Guarded d (earlier ++ ⟨.solve package request start stop, .before⟩ :: later)) :
    ∃ deeds result, Solving s package request start stop deeds result ∧
      Yields s service d earlier ⟨.solve package request start stop, .before⟩ later deeds
        (result.map .outcome) ∧
      ∀ handle, SolePoller s service
        (d, earlier ++ ⟨.solve package request start stop, .before⟩ :: later) earlier.length
        handle → result ≠ .error (.alreadyPolling handle) := by
  obtain ⟨first, d₁, d₂, earlier₁, later₁, t, ht, hlen, hv, hnow₂, hturn⟩ :=
    exists_submission s service package request start stop stop d earlier later hnow
  replace hturn := hturn stop (.inl rfl)
  cases hs : s.afterSubmit package first.answer with
  | error fault =>
    obtain rfl := ht.trans (Run.turn_unstarted hs _)
    refine ⟨_, _, .unstarted hs, .of_last hturn, fun handle _ he => ?_⟩
    rcases Solver.afterSubmit_eq_error hs with ⟨_, -, rfl⟩ | ⟨_, -, -, rfl⟩ <;> simp at he
  | ok handle =>
    have hstart := ht.trans (Run.turn_started rfl rfl hs _)
    by_cases hm : handle ∈ d₁.claims
    · obtain rfl := hstart.trans (Run.enter_of_mem s _ _ hm _)
      refine ⟨_, _, .refused hs, .of_last hturn, fun other hsole he => ?_⟩
      obtain rfl := SolveFault.alreadyPolling.inj (Except.error.inj he)
      rw [← hlen] at hsole
      exact not_mem_claims g hsole hv rfl hm
    · obtain rfl := hstart.trans (Run.enter_of_not_mem s _ _ hm _)
      obtain ⟨deeds, result, hp, hy⟩ := takesCourse s service
        (.solve package request start stop) (s.policy.start handle) (start + first.delay) d₂
        earlier₁ later₁ (Nat.le_of_eq hnow₂.symm)
        (Nat.le_trans (Nat.le_of_eq hnow₂) (Nat.le_max_left ..))
      refine ⟨_, _, .polled hs hp, hturn _ _ hy, fun other _ he => ?_⟩
      obtain ⟨_, _, hf⟩ := fault_of_polling hp he
      simp at hf

/-- The state from which a schedule sets out. -/
def outset (jobs : List Appointment) : Desk × List Run := (.quiet, jobs.map (⟨·, .before⟩))

/-- The appointment at this position and the others; another one can stand in its place. -/
theorem outset_of_getElem? {jobs : List Appointment} {i : Nat} {job : Appointment}
    (h : jobs[i]? = some job) : ∃ earlier later, earlier.length = i ∧
      outset jobs = (.quiet, earlier ++ ⟨job, .before⟩ :: later) ∧
      ∀ job', outset (jobs.set i job') = (.quiet, earlier ++ ⟨job', .before⟩ :: later) := by
  obtain ⟨hi, rfl⟩ := List.getElem?_eq_some_iff.1 h
  have hset : ∀ job', outset (jobs.set i job') = (.quiet, (jobs.take i).map (⟨·, .before⟩) ++
      ⟨job', .before⟩ :: (jobs.drop (i + 1)).map (⟨·, .before⟩)) := by
    intro job'
    rw [outset, List.set_eq_take_append_cons_drop, if_pos hi, List.map_append, List.map_cons]
  refine ⟨_, _, ?_, ?_, hset⟩
  · rw [List.length_map, List.length_take_of_le (Nat.le_of_lt hi)]
  · rw [← hset, List.set_getElem_self]

theorem Yields.of_outset {s : TimedSolver} {service : TimedService} {jobs : List Appointment}
    {earlier later : List Run} {r : Run} {deeds : List (Nat × Deed)}
    {result : Except SolveFault Delivery}
    (hset : outset jobs = (.quiet, earlier ++ r :: later))
    (hy : Yields s service .quiet earlier r later deeds result) :
    (run s service jobs).1.account earlier.length = deeds ∧
      (run s service jobs).2[earlier.length]? = some { r with stage := .closed result } := by
  have hrun : run s service jobs = play s service (outset jobs).1 (outset jobs).2 := rfl
  rw [hrun, hset]
  exact ⟨hy.account.trans (List.nil_append _), hy.runs⟩

/-- In a schedule a solve takes a course of a solve, and is then over. -/
theorem exists_solving_run (s : TimedSolver) (service : TimedService) {jobs : List Appointment}
    {i : Nat} {package : String} {request : Request} {start : Nat} {stop : Option Nat}
    (hjob : jobs[i]? = some (.solve package request start stop)) :
    ∃ deeds result, Solving s package request start stop deeds result ∧
      (run s service jobs).1.account i = deeds ∧
      (run s service jobs).2[i]? =
        some ⟨.solve package request start stop, .closed (result.map .outcome)⟩ ∧
      ∀ handle, SolePoller s service (outset jobs) i handle →
        result ≠ .error (.alreadyPolling handle) := by
  obtain ⟨earlier, later, rfl, hset, -⟩ := outset_of_getElem? hjob
  have g : Guarded (outset jobs).1 (outset jobs).2 := .of_reachable (reachable_join s jobs)
  rw [hset] at g ⊢
  obtain ⟨deeds, result, hs, hy, hsole⟩ := exists_solving s service (Nat.zero_le start) g
  obtain ⟨haccount, hruns⟩ := hy.of_outset hset
  exact ⟨deeds, result, hs, haccount, hruns, hsole⟩

end Schedule

/-! ## A solve to look at -/

deriving instance DecidableEq for Reply, Stage, Run, Deed

namespace Sample

/-- A solver that checks three times, exactly five seconds apart. -/
def solver : TimedSolver :=
  ⟨⟨"http://localhost:5001", Solver.defaultAdaptor, .of 5000 3⟩, .exact⟩

/-- A service that takes 20 milliseconds to accept a task and has solved it when it is checked for
the third time. -/
def service : TimedService
  | [_] => ⟨20, .ok (.object [("result", .text "/t42")])⟩
  | [_, _] | [_, _, _] => ⟨7, .ok (.object [("status", .text "pending")])⟩
  | _ => ⟨7, .ok (.object [("plans", .list [.list [.text "stack a b"]]), ("status", .text "ok")])⟩

/-- A solve that starts at once. -/
def job (stop : Option Nat) : Appointment :=
  .solve "lama-first" (.ofDocuments "(domain)" "(problem)") 0 stop

end Sample

end PlanCourier

import Mathlib.Data.List.Induction
import Mathlib.Logic.Relation
import PlanCourier.Proofs.Solve.Verdict
import PlanCourier.Solve.Schedule

/-!
# Errands in any order

`Schedule.play` lets the runs move in the order of their times. Here they move in any order: a new
errand joins at any moment, and any run may take its turn at any moment from now on, whatever the
service replies to it. So a loop starts, hears an answer, is stopped, fails or settles before or
after any move of the others.

Main statements:

- `claims_turn`: a turn leaves the claims alone, or claims the handle of the loop that it starts, or
  gives back the handle of the loop that it ends;
- `Guarded.of_reachable`: in every order the claims are the handles of the running loops, each held
  once;
- `reachable_run`: the course of a schedule is one of the orders;
- `one_loop_for_handle`: what this says of a start and of an end.
-/

namespace PlanCourier

namespace Run

variable (s : TimedSolver) (job : Appointment) (now : Nat)

/-- The handle on which the run starts a loop at its next turn, if it does not find it claimed. -/
def starts (r : Run) : Option String :=
  match r.stage with
  | .before =>
    match r.job.errand with
    | .poll handle => some handle
    | _ => none
  | .submitting _ package answer =>
    if r.job.errand.polls then (s.afterSubmit package answer).toOption else none
  | _ => none

/-! ## What a turn does to the claims -/

theorem enter_of_mem {claims : Claims} {handle : String} (h : handle ∈ claims)
    (deeds : List Deed) : enter s job now claims deeds handle =
      finish job claims deeds (.error (.alreadyPolling handle)) := by
  simp [enter, Claims.claim, h]

theorem enter_of_not_mem {claims : Claims} {handle : String} (h : handle ∉ claims)
    (deeds : List Deed) : enter s job now claims deeds handle =
      ⟨deeds, handle :: claims, .waiting (now + s.pause) (s.policy.start handle)⟩ := by
  rw [enter, Claims.claim_eq_ok.2 ⟨h, rfl⟩]

/-- How the claims change while a run goes from one stage to another. -/
inductive Claiming (before after : Claims) : Option String → Option String → Prop
  | keep (handle : Option String) (h : after = before) : Claiming before after handle handle
  | claim {handle : String} (hn : handle ∉ before) (h : after = handle :: before) :
      Claiming before after none (some handle)
  | release {handle : String} (h : after = before.release handle) :
      Claiming before after (some handle) none

theorem claiming_enter (claims : Claims) (deeds : List Deed) (handle : String) :
    Claiming claims (enter s job now claims deeds handle).claims none
      (enter s job now claims deeds handle).stage.polled := by
  by_cases h : handle ∈ claims
  · rw [enter_of_mem s job now h]
    exact .keep none rfl
  · rw [enter_of_not_mem s job now h]
    exact .claim h rfl

theorem claims_turn (f : Setting) (stage : Stage) :
    Claiming f.claims (turn s job now f stage).claims stage.polled
      (turn s job now f stage).stage.polled := by
  cases stage with
  | before =>
    unfold turn
    dsimp only
    split
    · exact .keep none rfl
    · exact .keep none rfl
    · exact claiming_enter ..
    · exact .keep none rfl
  | submitting due package answer =>
    unfold turn
    dsimp only
    split
    · exact .keep none rfl
    · split
      · exact claiming_enter ..
      · exact .keep none rfl
  | waiting due a =>
    unfold turn
    dsimp only
    split
    · exact .release rfl
    · exact .keep _ rfl
  | checking due a answer =>
    unfold turn
    dsimp only
    split
    · exact .release rfl
    · split
      · exact .release rfl
      next hb =>
        obtain ⟨-, -, rfl⟩ := Solver.afterCheck_eq_wait.1 hb
        exact .keep (some a.handle) rfl
  | closed result => exact .keep none rfl

end Run

/-! ## Every order -/

namespace Schedule

/-- One event at the desk: an errand joins, or some run takes its turn at some moment, no earlier
than now. -/
inductive Step (s : TimedSolver) : Desk × List Run → Desk × List Run → Prop
  | join (d : Desk) (runs : List Run) (job : Appointment) :
      Step s (d, runs) (d, runs ++ [⟨job, .before⟩])
  | act (service : TimedService) (d : Desk) (p : Pick) :
      Step s (d, p.earlier ++ p.run :: p.later) (move s service d p)

/-- What some order of events leads to. -/
def Reachable (s : TimedSolver) : Desk × List Run → Prop :=
  Relation.ReflTransGen (Step s) (.quiet, [])

/-- The handles of the running loops, in the order of the runs. -/
def running (runs : List Run) : List String := runs.filterMap (·.stage.polled)

theorem mem_running {runs : List Run} {handle : String} :
    handle ∈ running runs ↔ ∃ r ∈ runs, r.stage.polled = some handle := List.mem_filterMap

theorem running_append (a b : List Run) : running (a ++ b) = running a ++ running b :=
  List.filterMap_append

theorem running_cons_none {r : Run} (h : r.stage.polled = none) (runs : List Run) :
    running (r :: runs) = running runs := List.filterMap_cons_none h

theorem running_cons_some {r : Run} {handle : String} (h : r.stage.polled = some handle)
    (runs : List Run) : running (r :: runs) = handle :: running runs := List.filterMap_cons_some h

/-- The claims are the handles of the running loops, and each of them is held once. -/
structure Guarded (d : Desk) (runs : List Run) : Prop where
  perm : d.claims.Perm (running runs)
  nodup : d.claims.Nodup

namespace Guarded

theorem quiet : Guarded .quiet [] := ⟨.nil, .nil⟩

theorem join {d : Desk} {runs : List Run} (g : Guarded d runs) (job : Appointment) :
    Guarded d (runs ++ [⟨job, .before⟩]) := by
  refine ⟨?_, g.nodup⟩
  rw [running_append, running_cons_none rfl]
  simpa [running] using g.perm

/-- A turn moves one handle into the claims or out of them, and the loops follow. -/
theorem replace (r r' : Run) {before after : Claims} {earlier later : List Run}
    (hperm : before.Perm (running (earlier ++ r :: later))) (hnodup : before.Nodup)
    (hc : Run.Claiming before after r.stage.polled r'.stage.polled) :
    after.Perm (running (earlier ++ r' :: later)) ∧ after.Nodup := by
  rw [running_append] at hperm ⊢
  generalize hp : r.stage.polled = p at hc
  generalize hp' : r'.stage.polled = p' at hc
  cases hc with
  | keep _ h =>
    subst h
    refine ⟨?_, hnodup⟩
    cases p with
    | none =>
      rw [running_cons_none hp] at hperm
      rwa [running_cons_none hp']
    | some handle =>
      rw [running_cons_some hp] at hperm
      rwa [running_cons_some hp']
  | @claim handle hn h =>
    subst h
    rw [running_cons_none hp] at hperm
    rw [running_cons_some hp']
    exact ⟨(hperm.cons handle).trans List.perm_middle.symm, List.nodup_cons.2 ⟨hn, hnodup⟩⟩
  | @release handle h =>
    subst h
    rw [running_cons_some hp] at hperm
    rw [running_cons_none hp']
    have hmid : before.Perm (handle :: (running earlier ++ running later)) :=
      hperm.trans List.perm_middle
    have hout : handle ∉ running earlier ++ running later :=
      (List.nodup_cons.1 (hmid.nodup_iff.1 hnodup)).1
    refine ⟨?_, hnodup.filter _⟩
    refine (hmid.filter _).trans ?_
    rw [List.filter_cons_of_neg (by simp), List.filter_eq_self.2]
    intro other ho
    simpa using fun he : other = handle => hout (he ▸ ho)

theorem act {s : TimedSolver} {d : Desk} {p : Pick} (service : TimedService)
    (g : Guarded d (p.earlier ++ p.run :: p.later)) :
    Guarded (move s service d p).1 (move s service d p).2 := by
  have hc := Run.claims_turn s p.run.job (max d.now p.time) (d.setting service) p.run.stage
  obtain ⟨hperm, hnodup⟩ := replace p.run { p.run with stage := _ } g.perm g.nodup hc
  exact ⟨hperm, hnodup⟩

theorem of_reachable {s : TimedSolver} {state : Desk × List Run} (h : Reachable s state) :
    Guarded state.1 state.2 := by
  induction h with
  | refl => exact quiet
  | tail _ hs ih =>
    cases hs with
    | join d runs job => exact ih.join job
    | act service d p => exact ih.act service

theorem mem_claims {d : Desk} {runs : List Run} (g : Guarded d runs) {handle : String} :
    handle ∈ d.claims ↔ ∃ r ∈ runs, r.stage.polled = some handle :=
  g.perm.mem_iff.trans mem_running

theorem pairwise {d : Desk} {runs : List Run} (g : Guarded d runs) :
    runs.Pairwise fun a b => ∀ handle, a.stage.polled = some handle →
      b.stage.polled ≠ some handle := by
  have hnodup : (running runs).Nodup := g.perm.nodup_iff.1 g.nodup
  refine (List.pairwise_filterMap.1 hnodup).imp fun h handle ha hb => ?_
  exact h handle ha handle hb rfl

end Guarded

/-! ## The course of a schedule is one of the orders -/

theorem reachable_play {s : TimedSolver} (service : TimedService) (d : Desk) (runs : List Run)
    (h : Reachable s (d, runs)) : Reachable s (play s service d runs) := by
  fun_induction play s service d runs with
  | case1 d runs hp => exact h
  | case2 d runs p hp _ ih =>
    have hstep : Step s (d, runs) (move s service d p) := by
      rw [(eq_of_pick hp).1]
      exact .act service d p
    exact ih (h.tail hstep)

theorem reachable_join (s : TimedSolver) (jobs : List Appointment) :
    Reachable s (.quiet, jobs.map (⟨·, .before⟩)) := by
  induction jobs using List.reverseRecOn with
  | nil => exact .refl
  | append_singleton jobs job ih =>
    rw [List.map_append]
    exact ih.tail (.join _ _ job)

theorem reachable_run (s : TimedSolver) (service : TimedService) (jobs : List Appointment) :
    Reachable s (run s service jobs) := reachable_play service _ _ (reachable_join s jobs)

end Schedule

/-! ## A start and an end -/

namespace Run

theorem calls_closing (job : Appointment) (result : Except SolveFault Outcome) :
    (closing job result).filterMap Deed.call? = [] := by
  rw [closing, List.filterMap_append]
  split <;> simp [Deed.call?, List.filterMap_map, Function.comp_def]

theorem turn_of_starts {s : TimedSolver} {r : Run} {handle : String} (h : r.starts s = some handle)
    (now : Nat) (f : Setting) : ∃ deeds, deeds.filterMap Deed.call? = [] ∧
      turn s r.job now f r.stage = enter s r.job now f.claims deeds handle := by
  obtain ⟨job, stage⟩ := r
  cases stage with
  | before =>
    simp only [starts] at h
    split at h
    next he =>
      obtain rfl := Option.some.inj h
      exact ⟨[], rfl, by simp [turn, he]⟩
    next => simp at h
  | submitting due package answer =>
    simp only [starts] at h
    split at h
    next hp =>
      cases ha : s.afterSubmit package answer with
      | error fault => simp [ha, Except.toOption] at h
      | ok other =>
        obtain rfl : other = handle := by simpa [ha, Except.toOption] using h
        refine ⟨if job.errand.isTold then [.told .initiated] else [], ?_, ?_⟩
        · split <;> rfl
        · simp [turn, ha, hp]
    next => simp at h
  | waiting | checking | closed => simp [starts] at h

variable {s : TimedSolver} {service : TimedService} {position : Nat} {d : Desk} {r : Run}
  {handle : String}

theorem act_of_starts_claimed (h : r.starts s = some handle) (hm : handle ∈ d.claims) :
    (act s service position r.job d r.stage).2 = .closed (.error (.alreadyPolling handle)) ∧
    (act s service position r.job d r.stage).1.calls = d.calls ∧
    (act s service position r.job d r.stage).1.claims = d.claims := by
  obtain ⟨deeds, hd, ht⟩ := turn_of_starts h d.now (d.setting service)
  have he := enter_of_mem s r.job d.now hm deeds
  have hcalls : (deeds ++ closing r.job (.error (.alreadyPolling handle))).filterMap
      Deed.call? = [] := by
    rw [List.filterMap_append, hd, calls_closing, List.append_nil]
  refine ⟨?_, ?_, ?_⟩
  · show (turn s r.job d.now (d.setting service) r.stage).stage = _
    rw [ht]
    exact congrArg Turn.stage he
  · show ((turn s r.job d.now (d.setting service) r.stage).deeds.filterMap Deed.call?).reverse ++
      d.calls = d.calls
    rw [ht, show enter s r.job d.now (d.setting service).claims deeds handle = _ from he]
    simp [finish, hcalls]
  · show (turn s r.job d.now (d.setting service) r.stage).claims = _
    rw [ht]
    exact congrArg Turn.claims he

/-- A start on a handle that is not claimed leads to a loop, and the handle is claimed. -/
theorem act_of_starts_free (h : r.starts s = some handle) (hm : handle ∉ d.claims) :
    (act s service position r.job d r.stage).2.polled = some handle ∧
    (act s service position r.job d r.stage).1.claims = handle :: d.claims := by
  obtain ⟨deeds, -, ht⟩ := turn_of_starts h d.now (d.setting service)
  have he := enter_of_not_mem s r.job d.now hm deeds
  refine ⟨?_, ?_⟩
  · show (turn s r.job d.now (d.setting service) r.stage).stage.polled = _
    rw [ht]
    exact congrArg (fun t : Turn => t.stage.polled) he
  · show (turn s r.job d.now (d.setting service) r.stage).claims = _
    rw [ht]
    exact congrArg Turn.claims he

theorem not_mem_claims_of_end (h : r.stage.polled = some handle)
    (he : (act s service position r.job d r.stage).2.polled ≠ some handle) (other : String) :
    other ∉ (act s service position r.job d r.stage).1.claims ↔
      other ∉ d.claims ∨ other = handle := by
  have hc : Claiming d.claims (act s service position r.job d r.stage).1.claims r.stage.polled
      (act s service position r.job d r.stage).2.polled :=
    claims_turn s r.job d.now (d.setting service) r.stage
  rw [h] at hc
  generalize (act s service position r.job d r.stage).2.polled = p at hc he
  cases hc with
  | keep _ hk => exact absurd rfl he
  | release hk =>
    rw [hk, Claims.mem_release]
    tauto

end Run

/-- At most one loop runs for a handle, in whatever order loops start, hear answers, are stopped,
fail or settle. The claims, which a look at the desk answers from, are the handles of the loops that
run, and no two loops run for one handle. A start on a claimed handle is refused; it calls nobody
and leaves the claims as they are. When a loop ends, its handle can be claimed again, and no other
handle can that could not be claimed before. -/
theorem one_loop_for_handle {s : TimedSolver} {d : Desk} {runs : List Run}
    (h : Schedule.Reachable s (d, runs)) :
    (∀ handle, handle ∈ d.claims ↔ ∃ r ∈ runs, r.stage.polled = some handle) ∧
    (runs.Pairwise fun a b => ∀ handle, a.stage.polled = some handle →
      b.stage.polled ≠ some handle) ∧
    ∀ (service : TimedService) (p : Schedule.Pick), runs = p.earlier ++ p.run :: p.later →
      let moved := p.act s service d
      (∀ handle, p.run.job.errand = .look handle → p.run.stage = .before →
        ∃ flag, moved.2 = .closed (.ok (.polling flag)) ∧
          (flag = true ↔ ∃ r ∈ runs, r.stage.polled = some handle)) ∧
      (∀ handle, p.run.starts s = some handle → handle ∈ d.claims →
        moved.2 = .closed (.error (.alreadyPolling handle)) ∧ moved.1.calls = d.calls ∧
          moved.1.claims = d.claims) ∧
      (∀ handle, p.run.starts s = some handle → handle ∉ d.claims →
        moved.2.polled = some handle ∧ moved.1.claims = handle :: d.claims) ∧
      (∀ handle, p.run.stage.polled = some handle → moved.2.polled ≠ some handle →
        ∀ other, other ∉ moved.1.claims ↔ other ∉ d.claims ∨ other = handle) := by
  have g : Schedule.Guarded d runs := .of_reachable h
  refine ⟨fun handle => g.mem_claims, g.pairwise, fun service p _ => ?_⟩
  refine ⟨fun handle he hs => ⟨d.claims.contains handle, ?_, ?_⟩,
    fun handle hs hm => Run.act_of_starts_claimed hs hm,
    fun handle hs hm => Run.act_of_starts_free hs hm,
    fun handle hb ha => Run.not_mem_claims_of_end hb ha⟩
  · simp [Schedule.Pick.act, Run.act, hs, Run.turn, he, Desk.setting]
  · rw [List.contains_iff_mem]
    exact g.mem_claims

/-- Two loops for one task, the second of which is refused while the first one runs. -/
theorem second_loop_refused :
    let s : Solver := ⟨"http://localhost:5001", Solver.defaultAdaptor, .default⟩
    let service : TimedService := fun _ => ⟨0, .ok .null⟩
    let job : Appointment := ⟨.poll "/t7", 0, none⟩
    let state := Schedule.move s service .quiet ⟨0, [], ⟨job, .before⟩, [⟨job, .before⟩]⟩
    Schedule.Reachable s state ∧ state.1.claims = ["/t7"] ∧
      ∃ first, state.2 = [first, ⟨job, .before⟩] ∧ first.stage.polled = some "/t7" ∧
        (Schedule.Pick.act s service state.1 ⟨9, [first], ⟨job, .before⟩, []⟩).2 =
          .closed (.error (.alreadyPolling "/t7")) := by
  intro s service job state
  have hreach : Schedule.Reachable s state :=
    ((Relation.ReflTransGen.refl.tail (.join .quiet [] job)).tail (.join .quiet _ job)).tail
      (.act service .quiet ⟨0, [], ⟨job, .before⟩, [⟨job, .before⟩]⟩)
  obtain ⟨first, hruns, hfirst⟩ : ∃ first, state.2 = [first, ⟨job, .before⟩] ∧
      first.stage.polled = some "/t7" := ⟨_, rfl, rfl⟩
  have hclaims : "/t7" ∈ state.1.claims := List.mem_singleton.2 rfl
  obtain ⟨-, -, hturn⟩ := one_loop_for_handle hreach
  obtain ⟨-, hrefused, -⟩ := hturn service ⟨9, [first], ⟨job, .before⟩, []⟩ hruns
  exact ⟨hreach, rfl, first, hruns, hfirst, (hrefused "/t7" rfl hclaims).1⟩

end PlanCourier

import PlanCourier.Proofs.Solve.Concurrent
import PlanCourier.Proofs.Solve.Shift

/-!
# Runs that do not disturb each other

A run among others is set beside its likeness, which does the same errand with nobody else at the
desk and on its own clock. All that a run shares with the others is the claims and the calls. The
claims matter only when it starts a loop and finds its handle claimed; and a service that answers to
its own calls does not tell it of the others. So the two take the same turns, unless the run is
refused.

Main statements:

- `Mirrored.turn` and `Mirrored.other`: the run and its likeness remain alike in a move of the run,
  and in a move of another one;
- `Mirrored.apart`, `mirrored_or_isOver` and `Mirrored.held`: so they do in a whole course;
- `run_as_alone`: the run does what its errand does alone, and comes to the same result.
-/

namespace PlanCourier

namespace Schedule

/-! ## A run beside its likeness -/

/-- The run at position `i` of a course beside its likeness, which runs alone on its own clock: it
has done the same and called the service with the same, and where they are both at this stage, they
take their next turn at the same moment. -/
structure Mirror (s : TimedSolver) (own : Nat → TimedService) (i : Nat) (job : Appointment)
    (d d' : Desk) (stage : Stage) : Prop where
  visits : Visits s (own i) (outset [job.atOnce]) (d', [⟨job.atOnce, stage⟩])
  account : d.account i = (d'.account 0).map fun e => (job.start + e.1, e.2)
  calls : d'.calls = d.callsBy i
  moment : ∀ due, Run.due ⟨job.atOnce, stage⟩ = some due →
    ∃ u, Run.due ⟨job, stage.later job.start⟩ = some u ∧
      max d.now u = job.start + max d'.now due

/-- In this state the run at position `i` has a likeness. -/
def Mirrored (s : TimedSolver) (own : Nat → TimedService) (i : Nat) (job : Appointment)
    (x : Desk × List Run) : Prop :=
  ∃ d' stage, x.2[i]? = some ⟨job, stage.later job.start⟩ ∧ Mirror s own i job x.1 d' stage

section
variable {s : TimedSolver} {own : Nat → TimedService} {i k : Nat} {job : Appointment}
  {x y : Desk × List Run}

theorem mirrored_outset {jobs : List Appointment} (h : jobs[i]? = some job) :
    Mirrored s own i job (outset jobs) := by
  refine ⟨.quiet, .before, by simp [outset, h, Stage.later], .refl, rfl, rfl, ?_⟩
  rintro due hdue
  obtain rfl : 0 = due := Option.some.inj hdue
  exact ⟨job.start, rfl, Nat.zero_max _⟩

/-- A move of another run changes nothing for this one: it goes on at the same moment. -/
theorem Mirrored.other (h : Timely s own k x y) (hk : k ≠ i) (hm : Mirrored s own i job x) :
    Mirrored s own i job y := by
  obtain ⟨d', stage, hr, m⟩ := hm
  cases h with
  | act service d p hdue hfirst hown =>
    have haccount : (move s service d p).1.account i = d.account i := Desk.account_after_ne _ hk _
    refine ⟨d', stage, (getElem?_move_ne s service d hk).trans hr, m.visits,
      haccount.trans m.account, ?_, fun due hd => ?_⟩
    · rw [m.calls, Desk.callsBy, Desk.callsBy, haccount]
    · obtain ⟨u, hu, hmax⟩ := m.moment due hd
      have hle : p.time ≤ u := hfirst _ (mem_of_getElem?_ne hk hr) u hu
      refine ⟨u, hu, ?_⟩
      calc max (max d.now p.time) u = max d.now u := by omega
        _ = job.start + max d'.now due := hmax

theorem Mirror.free {d d' : Desk} {stage : Stage} (m : Mirror s own i job d d' stage)
    {handle : String} (h : Run.starts s ⟨job.atOnce, stage⟩ = some handle) :
    handle ∉ d'.claims := by
  intro hm
  have g : Guarded d' [⟨job.atOnce, stage⟩] :=
    Guarded.of_visits m.visits (.of_reachable (reachable_join s [job.atOnce]))
  obtain ⟨r, hr, hpolled⟩ := g.mem_claims.1 hm
  obtain rfl := List.mem_singleton.1 hr
  rw [Run.polled_of_starts h] at hpolled
  cases hpolled

/-- A run that finds its handle free takes the turn of its likeness, because it hears the same. -/
theorem Mirror.likeTurn {d d' : Desk} {stage : Stage} (m : Mirror s own i job d d' stage)
    (hlook : ∀ handle, job.errand ≠ .look handle) {service : TimedService}
    (hown : ∀ call, service (call :: d.calls) = own i (call :: d.callsBy i))
    (hfree : ∀ handle, Run.starts s ⟨job, stage.later job.start⟩ = some handle →
      handle ∉ d.claims) (now : Nat) :
    Run.LikeTurn job.start
      (Run.turn s job (job.start + now) (d.setting service) (stage.later job.start))
      (Run.turn s job.atOnce now (d'.setting (own i)) stage) := by
  refine Run.turn_later now hlook (fun call => ?_) fun handle hstarts => ⟨?_, m.free hstarts⟩
  · rw [Desk.setting, Desk.setting, m.calls]
    exact hown call
  · exact hfree handle ((Run.starts_later stage).trans hstarts)

/-- A turn of the run is a turn of its likeness, unless it collides. -/
theorem Mirrored.turn (hlook : ∀ handle, job.errand ≠ .look handle) (h : Timely s own i x y)
    (g : Guarded x.1 x.2) (hc : ¬ Collides s x i) (hm : Mirrored s own i job x) :
    Mirrored s own i job y := by
  obtain ⟨d', stage, hr, m⟩ := hm
  cases h with
  | act service d p hdue hfirst hown =>
    have hrun : p.run = ⟨job, stage.later job.start⟩ := by simpa using hr
    obtain ⟨due, hdue'⟩ := Run.exists_due_of_later (hrun ▸ hdue)
    -- both take their turn, at the same moment and with the same replies
    have hmoment : max d.now p.time = job.start + max d'.now due := by
      obtain ⟨u, hu, hmax⟩ := m.moment due hdue'
      obtain rfl : u = p.time := Option.some.inj (hu.symm.trans (hrun ▸ hdue))
      exact hmax
    let q : Pick := ⟨due, [], ⟨job.atOnce, stage⟩, []⟩
    have hturn : Run.LikeTurn job.start (p.turn s service d)
        (q.turn s (own p.earlier.length) d') := by
      rw [Pick.turn, Pick.turn, hrun, hmoment]
      refine m.likeTurn hlook hown (fun handle hstarts hclaimed => hc ?_) _
      exact ⟨_, handle, hr, hstarts, g.perm.mem_iff.1 hclaimed⟩
    refine ⟨(move s (own p.earlier.length) d' q).1, (q.turn s (own p.earlier.length) d').stage,
      ?_, m.visits.tail (moves_alone s _ d' hdue'), ?_, ?_, fun due₂ hdue₂ => ?_⟩
    · rw [getElem?_move, hrun, hturn.stage]
    · have haccount := account_move s (own p.earlier.length) d' q
      rw [account_move, show (move s (own p.earlier.length) d' q).1.account 0 = _ from haccount,
        m.account, hturn.deeds, hmoment]
      simp [q, Function.comp_def]
    · rw [callsBy_move, hturn.deeds, ← m.calls]
      rfl
    · rw [now_move, hmoment]
      exact Run.moment_later hdue₂ _

theorem Mirrored.timely (hlook : ∀ handle, job.errand ≠ .look handle) (h : Timely s own k x y)
    (g : Guarded x.1 x.2) (hc : k = i → ¬ Collides s x i) (hm : Mirrored s own i job x) :
    Mirrored s own i job y := by
  by_cases hk : k = i
  · subst hk
    exact hm.turn hlook h g (hc rfl)
  · exact hm.other h hk

theorem Mirrored.apart (hlook : ∀ handle, job.errand ≠ .look handle) (h : Apart s own x y)
    (g : Guarded x.1 x.2) (hm : Mirrored s own i job x) : Mirrored s own i job y := by
  induction h with
  | refl => exact hm
  | @tail y z hy hmove ih =>
    obtain ⟨k, hmove, hc⟩ := hmove
    exact ih.timely hlook hmove (g.course (Apart.course hy)) fun hk => hk ▸ hc

/-! ## A run that is refused, and the one that holds the handle -/

/-- Whatever the others do, a run goes on like its likeness until it is refused. -/
theorem mirrored_or_isOver {jobs : List Appointment} (hjob : jobs[i]? = some job)
    (hlook : ∀ handle, job.errand ≠ .look handle) (h : Course s own (outset jobs) x) :
    Mirrored s own i job x ∨ IsOver x i := by
  induction h with
  | refl => exact .inl (mirrored_outset hjob)
  | @tail y z hy hmove ih =>
    have g : Guarded y.1 y.2 := .course hy (.of_reachable (reachable_join s jobs))
    obtain ⟨k, hmove⟩ := hmove
    rcases ih with hm | hover
    · by_cases hc : k = i ∧ Collides s y i
      · obtain ⟨rfl, hc⟩ := hc
        exact .inr (hmove.isOver_of_collides g hc)
      · exact .inl (hm.timely hlook hmove g fun hk hcollides => hc ⟨hk, hcollides⟩)
    · exact .inr (hmove.isOver hover)

/-- A run that polls a handle goes on alike until it is over, whatever the others do. -/
theorem Mirrored.held (hlook : ∀ handle, job.errand ≠ .look handle) {handle : String}
    (h : Course s own x y) (g : Guarded x.1 x.2) (hx : Holds x i handle)
    (hm : Mirrored s own i job x) :
    Mirrored s own i job y ∧ (Holds y i handle ∨ IsOver y i) := by
  induction h with
  | refl => exact ⟨hm, .inl hx⟩
  | @tail y z hy hmove ih =>
    obtain ⟨hm, hheld⟩ := ih
    obtain ⟨k, hmove⟩ := hmove
    have hc : ¬ Collides s y i := hheld.elim Holds.not_collides IsOver.not_collides
    exact ⟨hm.timely hlook hmove (g.course hy) fun _ => hc,
      hheld.elim hmove.holds fun hover => .inr (hmove.isOver hover)⟩

/-! ## Alone -/

theorem play_of_visits {service : TimedService} (h : Visits s service x y) :
    play s service x.1 x.2 = play s service y.1 y.2 := by
  induction h with
  | refl => rfl
  | tail _ hm ih =>
    obtain ⟨p, hp, rfl⟩ := hm
    exact ih.trans (play_some hp)

/-- Where the likeness is over, this is all that the errand does alone. -/
theorem Mirror.run_eq {d d' : Desk} {result : Except SolveFault Delivery}
    (m : Mirror s own i job d d' (.closed result)) :
    run s (own i) [job.atOnce] = (d', [⟨job.atOnce, .closed result⟩]) := by
  have hplay : run s (own i) [job.atOnce] = play s (own i) d' [⟨job.atOnce, .closed result⟩] :=
    play_of_visits m.visits
  exact hplay.trans (play_none rfl)

end

end Schedule

/-- Runs do not disturb each other, for any solver, any appointments and any order of turns. What
the service replies to a run depends on the calls of this run alone. If the loops for one handle do
not overlap, a run does what its errand does alone, calls, notices and views, each as much later as
its start is, and it comes to the same result. So does a run that holds a handle at some time, even
where others are refused because of it. A look is not meant: it is there to see what others do. -/
theorem run_as_alone {s : TimedSolver} {own : Nat → TimedService} {jobs : List Appointment}
    {i : Nat} {job : Appointment} {state : Desk × List Run} {result : Except SolveFault Delivery}
    (hjob : jobs[i]? = some job) (hlook : ∀ handle, job.errand ≠ .look handle)
    (hcourse : Schedule.Apart s own (Schedule.outset jobs) state ∨
      ∃ x handle, Schedule.Course s own (Schedule.outset jobs) x ∧ Schedule.Holds x i handle ∧
        Schedule.Course s own x state)
    (hend : state.2[i]? = some ⟨job, .closed result⟩) :
    let alone := Schedule.run s (own i) [job.atOnce]
    state.1.account i = (alone.1.account 0).map (fun e => (job.start + e.1, e.2)) ∧
      alone.2 = [⟨job.atOnce, .closed result⟩] := by
  have g : Schedule.Guarded (Schedule.outset jobs).1 (Schedule.outset jobs).2 :=
    .of_reachable (Schedule.reachable_join s jobs)
  have hm : Schedule.Mirrored s own i job state := by
    rcases hcourse with hapart | ⟨x, handle, hx, hheld, hstate⟩
    · exact (Schedule.mirrored_outset hjob).apart hlook hapart g
    · rcases Schedule.mirrored_or_isOver hjob hlook hx with hm | hover
      · exact (hm.held hlook hstate (g.course hx) hheld).1
      · exact absurd hheld hover.not_holds
  obtain ⟨d', stage, hr, m⟩ := hm
  have hstage : stage.later job.start = .closed result := by
    have hrun : (⟨job, stage.later job.start⟩ : Run) = ⟨job, .closed result⟩ :=
      Option.some.inj (hr.symm.trans hend)
    exact (Run.mk.inj hrun).2
  obtain rfl := Stage.later_eq_closed.1 hstage
  intro alone
  have halone : alone = (d', [⟨job.atOnce, .closed result⟩]) := m.run_eq
  rw [halone]
  exact ⟨m.account, rfl⟩

/-! ## Runs to look at -/

/-- Whether a call checks this handle. -/
def Call.checks (handle : String) : Call → Bool
  | .check other _ => other == handle
  | .submit .. => false

namespace Sample

/-- What a service says of a task that it has solved. -/
def solved : Json :=
  .object [("plans", .list [.list [.text "stack a b"]]), ("status", .text "ok")]

/-- What a service says of a task that it does not know any more. -/
def unknown : Json := .object [("status", .text "error")]

/-- A service that calls a task after its package, and has solved it when it is checked. -/
def prompt : TimedService
  | .submit package _ :: _ => ⟨20, .ok (.object [("result", .text ("/" ++ package))])⟩
  | _ => ⟨7, .ok solved⟩

/-- A service with one handle for all tasks. It has solved the task when it is checked, and forgets
it then. -/
def forgetful : TimedService
  | .check handle _ :: before =>
    ⟨7, .ok (if (before.filter (Call.checks handle)).isEmpty then solved else unknown)⟩
  | _ => ⟨20, .ok (.object [("result", .text "/t42")])⟩

def appointment (package : String) (start : Nat) : Appointment :=
  .solve package (.ofDocuments "(domain)" "(problem)") start none

def success : Except SolveFault Delivery :=
  .ok (.outcome (.succeeded [Plan.ofJson (.list [.text "stack a b"])]))

/-- The result of a solve whose task the service does not know any more. -/
def failure : Except SolveFault Delivery := .ok (.outcome (.failed (.ofJson unknown)))

theorem handle_of_mayPoll {package handle : String} {start : Nat}
    (h : (appointment package start).MayPoll solver prompt handle) : "/" ++ package = handle := by
  obtain ⟨calls, h⟩ := h
  obtain ⟨response, hanswer, hresult, -⟩ := Solver.afterSubmit_eq_ok.1 h
  obtain rfl := Except.ok.inj hanswer
  exact Json.text.inj (Option.some.inj hresult)

end Sample

/-- Two solves with a task each: what the second one does is what it does alone, but three
milliseconds later. And two loops for one handle: the first one does what it does alone, although
the second one is refused because of it. -/
theorem as_alone_beside_another :
    (let first := Sample.appointment "lama" 0
      let second := Sample.appointment "dual" 3
      let course := Schedule.run Sample.solver Sample.prompt [first, second]
      let alone := Schedule.run Sample.solver Sample.prompt [second.atOnce]
      course.1.account 1 = (alone.1.account 0).map (fun e => (3 + e.1, e.2)) ∧
        alone.2 = [⟨second.atOnce, .closed Sample.success⟩]) ∧
    (let first : Appointment := ⟨.poll "/t7", 0, none⟩
      let second : Appointment := ⟨.poll "/t7", 3, none⟩
      let course := Schedule.run Sample.solver Sample.prompt [first, second]
      let alone := Schedule.run Sample.solver Sample.prompt [first.atOnce]
      course.2[1]? = some ⟨second, .closed (.error (.alreadyPolling "/t7"))⟩ ∧
        course.1.account 0 = (alone.1.account 0).map (fun e => (0 + e.1, e.2)) ∧
        alone.2 = [⟨first.atOnce, .closed Sample.success⟩]) := by
  have hown : ∀ (d : Desk) (k : Nat) call,
      Sample.prompt (call :: d.calls) = Sample.prompt (call :: d.callsBy k) := by
    intro d k call
    cases call <;> rfl
  constructor
  · have hend : (Schedule.run Sample.solver Sample.prompt
        [Sample.appointment "lama" 0, Sample.appointment "dual" 3]).2[1]? =
        some ⟨Sample.appointment "dual" 3, .closed Sample.success⟩ := by decide +kernel
    intro first second course alone
    have hcourse : Schedule.Course Sample.solver (fun _ => Sample.prompt)
        (Schedule.outset [first, second]) course :=
      Schedule.course_run hown [first, second]
    have hapart : Schedule.Apart Sample.solver (fun _ => Sample.prompt)
        (Schedule.outset [first, second]) course := by
      have hne : "/" ++ "lama" ≠ "/" ++ "dual" := by decide
      refine hcourse.apart fun i j job job' handle hi hj h h' => ?_
      rcases i with _ | _ | i <;> rcases j with _ | _ | j <;> cases hi <;> cases hj
      · rfl
      · exact absurd ((Sample.handle_of_mayPoll h).trans (Sample.handle_of_mayPoll h').symm) hne
      · exact absurd ((Sample.handle_of_mayPoll h').trans (Sample.handle_of_mayPoll h).symm) hne
      · rfl
    have hlook : ∀ handle, second.errand ≠ .look handle := fun _ h => Errand.noConfusion h
    have hjob : [first, second][1]? = some second := rfl
    exact run_as_alone hjob hlook (.inl hapart) hend
  · have hends : (Schedule.run Sample.solver Sample.prompt
        [⟨.poll "/t7", 0, none⟩, ⟨.poll "/t7", 3, none⟩]).2 =
        [⟨⟨.poll "/t7", 0, none⟩, .closed Sample.success⟩,
          ⟨⟨.poll "/t7", 3, none⟩, .closed (.error (.alreadyPolling "/t7"))⟩] := by decide +kernel
    intro first second course alone
    let pick : Schedule.Pick := ⟨0, [], ⟨first, .before⟩, [⟨second, .before⟩]⟩
    let x := Schedule.move Sample.solver Sample.prompt .quiet pick
    have hpick : Schedule.pick [⟨first, .before⟩, ⟨second, .before⟩] = some pick := rfl
    have hmove : Schedule.Timely Sample.solver (fun _ => Sample.prompt) pick.earlier.length
        (Schedule.outset [first, second]) x :=
      Schedule.timely_of_pick (x := Schedule.outset [first, second]) hpick (hown .quiet 0)
    have hstart : Schedule.Course Sample.solver (fun _ => Sample.prompt)
        (Schedule.outset [first, second]) x := .single ⟨_, hmove⟩
    have hrest : Schedule.Course Sample.solver (fun _ => Sample.prompt) x course := by
      have hcourse : course = Schedule.play Sample.solver Sample.prompt x.1 x.2 :=
        Schedule.play_some hpick
      rw [hcourse]
      exact Schedule.course_play hown x.1 x.2
    have hheld : Schedule.Holds x 0 "/t7" := ⟨_, rfl, rfl⟩
    have hlook : ∀ handle, first.errand ≠ .look handle := fun _ h => Errand.noConfusion h
    have hjob : [first, second][0]? = some first := rfl
    have hend : course.2[0]? = some ⟨first, .closed Sample.success⟩ := congrArg (·[0]?) hends
    refine ⟨congrArg (·[1]?) hends, ?_⟩
    exact run_as_alone hjob hlook (.inr ⟨x, "/t7", hstart, hheld, hrest⟩) hend

/-- A service may give a handle out again when the loop for it is over. Here its answers to a
submission depend on nothing, those to a check only on the earlier checks of the handle, and the
second solve starts when the first one is long over. It fails, and alone it would not have: the
checks of the first solve count against it. -/
theorem handle_given_out_again :
    let service := Sample.forgetful
    let first := Sample.appointment "lama" 0
    let second := Sample.appointment "lama" 100000
    let course := Schedule.run Sample.solver service [first, second]
    let alone := Schedule.run Sample.solver service [second.atOnce]
    (∀ package request calls calls',
      service (.submit package request :: calls) = service (.submit package request :: calls')) ∧
    (∀ handle adaptor calls calls',
      calls.filter (Call.checks handle) = calls'.filter (Call.checks handle) →
      service (.check handle adaptor :: calls) = service (.check handle adaptor :: calls')) ∧
    (∀ e ∈ course.1.account 0, e.1 < second.start) ∧
    course.2 = [⟨first, .closed Sample.success⟩, ⟨second, .closed Sample.failure⟩] ∧
    alone.2 = [⟨second.atOnce, .closed Sample.success⟩] := by
  have htimes : ((Schedule.run Sample.solver Sample.forgetful
      [Sample.appointment "lama" 0, Sample.appointment "lama" 100000]).1.account 0).map Prod.fst =
      [0, 20, 5020, 5027, 5027, 5027] := by decide +kernel
  refine ⟨fun _ _ _ _ => rfl, ?_, ?_, by decide +kernel, by decide +kernel⟩
  · intro handle adaptor calls calls' h
    simp only [Sample.forgetful, h]
  · intro e he
    have hmem := List.mem_map_of_mem (f := Prod.fst) he
    rw [htimes] at hmem
    simp only [List.mem_cons, List.not_mem_nil, or_false] at hmem
    show e.1 < 100000
    omega

end PlanCourier

import PlanCourier.Proofs.Solve.Course

/-!
# Runs at the same time

Several runs on one desk, each at its own moments. `Schedule.play` breaks ties between them by their
position; here any of the runs that are due at the same time may be the one that moves. The service
is given by what it replies to each run: it may know all that this run has asked before, and nothing
of what others have asked.

Main statements:

- `exists_course_to_end`: a course goes on until every run is over;
- `Course.apart`: runs with tasks of their own do not meet on a handle.
-/

namespace PlanCourier

/-- The calls of the run at this position, the latest one first. -/
def Desk.callsBy (d : Desk) (run : Nat) : List Call :=
  ((d.account run).filterMap fun e => e.2.call?).reverse

theorem Desk.callsBy_after (d : Desk) (run : Nat) (t : Turn) :
    (d.after run t).callsBy run = (t.deeds.filterMap Deed.call?).reverse ++ d.callsBy run := by
  rw [callsBy, account_after, List.filterMap_append, List.filterMap_map, List.reverse_append]
  rfl

namespace Run

theorem polled_of_starts {s : TimedSolver} {r : Run} {handle : String}
    (h : r.starts s = some handle) :
    r.stage.polled = none := by
  obtain ⟨job, stage⟩ := r
  cases stage with
  | before | submitting | closed => rfl
  | waiting | checking => simp [starts] at h

theorem due_eq_none {r : Run} : r.due = none ↔ ∃ result, r.stage = .closed result := by
  obtain ⟨job, stage⟩ := r
  cases stage <;> simp [due]

theorem polled_turn (s : TimedSolver) (job : Appointment) (now : Nat) (f : Setting) {stage : Stage}
    {handle : String} (h : stage.polled = some handle) :
    (turn s job now f stage).stage.polled = some handle ∨
      ∃ result, (turn s job now f stage).stage = .closed result := by
  cases stage with
  | before | submitting | closed => cases h
  | waiting due a =>
    simp only [turn]
    split
    · exact .inr ⟨_, rfl⟩
    · exact .inl h
  | checking due a answer =>
    simp only [turn]
    split
    · exact .inr ⟨_, rfl⟩
    · cases hcheck : s.afterCheck a answer with
      | ended result => exact .inr ⟨_, rfl⟩
      | wait b =>
        obtain ⟨-, -, rfl⟩ := Solver.afterCheck_eq_wait.1 hcheck
        exact .inl h

end Run

namespace Schedule

/-- One move of a course: the run at this position takes its turn at its moment, and none of the
others is due before it. Of several that are due at the same time it may be any. The service replies
to it what `own` has for this position replies to the calls of this run alone. -/
inductive Timely (s : TimedSolver) (own : Nat → TimedService) :
    Nat → Desk × List Run → Desk × List Run → Prop
  | act (service : TimedService) (d : Desk) (p : Pick) (hdue : p.run.due = some p.time)
      (hfirst : ∀ r ∈ p.earlier ++ p.later, ∀ u, r.due = some u → p.time ≤ u)
      (hown : ∀ call, service (call :: d.calls) =
        own p.earlier.length (call :: d.callsBy p.earlier.length)) :
      Timely s own p.earlier.length (d, p.earlier ++ p.run :: p.later) (move s service d p)

/-- The states that a course may pass through from this one on. -/
def Course (s : TimedSolver) (own : Nat → TimedService) :
    Desk × List Run → Desk × List Run → Prop :=
  Relation.ReflTransGen fun x y => ∃ k, Timely s own k x y

/-- The run at position `i` starts a loop at its next turn, on a handle that another run polls. -/
def Collides (s : TimedSolver) (x : Desk × List Run) (i : Nat) : Prop :=
  ∃ r handle, x.2[i]? = some r ∧ r.starts s = some handle ∧ handle ∈ running x.2

/-- The states of a course in which the loops for one handle do not overlap: no run starts a loop on
a handle that another run polls. -/
def Apart (s : TimedSolver) (own : Nat → TimedService) : Desk × List Run → Desk × List Run → Prop :=
  Relation.ReflTransGen fun x y => ∃ k, Timely s own k x y ∧ ¬ Collides s x k

/-- The run at position `i` polls this handle. -/
def Holds (x : Desk × List Run) (i : Nat) (handle : String) : Prop :=
  ∃ r, x.2[i]? = some r ∧ r.stage.polled = some handle

/-- The run at position `i` is over. -/
def IsOver (x : Desk × List Run) (i : Nat) : Prop :=
  ∃ job result, x.2[i]? = some ⟨job, .closed result⟩

variable {s : TimedSolver} {own : Nat → TimedService} {i k : Nat} {x y : Desk × List Run}

/-! ## One move -/

def Pick.turn (s : TimedSolver) (service : TimedService) (d : Desk) (p : Pick) : Turn :=
  Run.turn s p.run.job (max d.now p.time) (d.setting service) p.run.stage

section
variable (s : TimedSolver) (service : TimedService) (d : Desk) (p : Pick)

theorem act_snd : (p.act s service d).2 = (p.turn s service d).stage := rfl

theorem now_move : (move s service d p).1.now = max d.now p.time := rfl

theorem getElem?_move : (move s service d p).2[p.earlier.length]? =
    some { p.run with stage := (p.turn s service d).stage } := by
  rw [move, List.getElem?_append_right (Nat.le_refl _), Nat.sub_self, act_snd]
  rfl

theorem account_move : (move s service d p).1.account p.earlier.length =
    d.account p.earlier.length ++
      (p.turn s service d).deeds.map (max d.now p.time, ·) :=
  Desk.account_after ..

theorem callsBy_move : (move s service d p).1.callsBy p.earlier.length =
    ((p.turn s service d).deeds.filterMap Deed.call?).reverse ++ d.callsBy p.earlier.length :=
  Desk.callsBy_after ..

theorem moves_alone {r : Run} {due : Nat} (h : r.due = some due) :
    Moves s service (d, [r]) ((move s service d ⟨due, [], r, []⟩).1,
      [{ r with stage := (Pick.turn s service d ⟨due, [], r, []⟩).stage }]) := by
  have hpick : pick [r] = some ⟨due, [], r, []⟩ := by
    rw [pick, h]
    rfl
  refine ⟨_, hpick, ?_⟩
  rw [move, act_snd]
  rfl

variable {p}

theorem getElem?_move_ne (h : p.earlier.length ≠ i) :
    (move s service d p).2[i]? = (p.earlier ++ p.run :: p.later)[i]? := by
  simp only [move]
  rcases Nat.lt_or_gt_of_ne h with hlt | hlt
  · obtain ⟨n, rfl⟩ := Nat.exists_eq_add_of_lt hlt
    simp [List.getElem?_append_right, Nat.add_assoc]
  · rw [List.getElem?_append_left hlt, List.getElem?_append_left hlt]

theorem mem_of_getElem?_ne {r : Run} (h : p.earlier.length ≠ i)
    (hr : (p.earlier ++ p.run :: p.later)[i]? = some r) : r ∈ p.earlier ++ p.later := by
  rcases Nat.lt_or_gt_of_ne h with hlt | hlt
  · obtain ⟨n, rfl⟩ := Nat.exists_eq_add_of_lt hlt
    have hlater : p.later[n]? = some r := by
      simpa [List.getElem?_append_right, Nat.add_assoc] using hr
    exact List.mem_append_right _ (List.mem_of_getElem? hlater)
  · rw [List.getElem?_append_left hlt] at hr
    exact List.mem_append_left _ (List.mem_of_getElem? hr)

end

theorem Guarded.timely (h : Timely s own k x y) (g : Guarded x.1 x.2) : Guarded y.1 y.2 := by
  cases h with
  | act service d p _ _ _ => exact g.act service

theorem Guarded.course (h : Course s own x y) (g : Guarded x.1 x.2) : Guarded y.1 y.2 := by
  induction h with
  | refl => exact g
  | tail _ hm ih =>
    obtain ⟨k, hm⟩ := hm
    exact ih.timely hm

theorem Apart.course (h : Apart s own x y) : Course s own x y :=
  Relation.ReflTransGen.mono (fun _ _ ⟨k, hm, _⟩ => ⟨k, hm⟩) _ _ h

/-! ## Loops and ends of runs -/

theorem Timely.isOver_of_collides (h : Timely s own i x y) (g : Guarded x.1 x.2)
    (hc : Collides s x i) : IsOver y i := by
  obtain ⟨r, handle, hr, hstarts, hclaimed⟩ := hc
  cases h with
  | act service d p hdue hfirst hown =>
    obtain rfl : p.run = r := by simpa using hr
    have hrefused : (p.act s service d).2 = .closed (.error (.alreadyPolling handle)) :=
      (Run.act_of_starts_claimed (d := { d with now := max d.now p.time }) hstarts
        (g.perm.mem_iff.2 hclaimed)).1
    refine ⟨p.run.job, .error (.alreadyPolling handle), ?_⟩
    rw [getElem?_move, ← act_snd, hrefused]

theorem Timely.isOver (h : Timely s own k x y) (hx : IsOver x i) : IsOver y i := by
  obtain ⟨job, result, hx⟩ := hx
  refine ⟨job, result, ?_⟩
  cases h with
  | act service d p hdue hfirst hown =>
    by_cases hi : p.earlier.length = i
    · subst hi
      have hrun : p.run = ⟨job, .closed result⟩ := by simpa using hx
      rw [hrun] at hdue
      cases hdue
    · exact (getElem?_move_ne s service d hi).trans hx

/-- A loop goes on with its handle until it is over. -/
theorem Timely.holds {handle : String} (h : Timely s own k x y) (hx : Holds x i handle) :
    Holds y i handle ∨ IsOver y i := by
  obtain ⟨r, hr, hpolled⟩ := hx
  cases h with
  | act service d p hdue hfirst hown =>
    by_cases hi : p.earlier.length = i
    · subst hi
      obtain rfl : p.run = r := by simpa using hr
      have hy := getElem?_move s service d p
      rcases Run.polled_turn s p.run.job (max d.now p.time) (d.setting service) hpolled with
        hpolls | ⟨result, hover⟩
      · exact .inl ⟨_, hy, hpolls⟩
      · refine .inr ⟨p.run.job, result, hy.trans ?_⟩
        rw [Pick.turn, hover]
    · exact .inl ⟨r, (getElem?_move_ne s service d hi).trans hr, hpolled⟩

theorem Holds.not_collides {handle : String} (h : Holds x i handle) : ¬ Collides s x i := by
  rintro ⟨r, other, hr, hstarts, -⟩
  obtain ⟨r', hr', hpolled⟩ := h
  obtain rfl : r = r' := Option.some.inj (hr.symm.trans hr')
  rw [Run.polled_of_starts hstarts] at hpolled
  cases hpolled

theorem IsOver.not_holds {handle : String} (h : IsOver x i) : ¬ Holds x i handle := by
  rintro ⟨r, hr, hpolled⟩
  obtain ⟨job, result, hr'⟩ := h
  obtain rfl : r = ⟨job, .closed result⟩ := Option.some.inj (hr.symm.trans hr')
  cases hpolled

theorem IsOver.not_collides (h : IsOver x i) : ¬ Collides s x i := by
  rintro ⟨r, other, hr, hstarts, -⟩
  obtain ⟨job, result, hr'⟩ := h
  obtain rfl : r = ⟨job, .closed result⟩ := Option.some.inj (hr.symm.trans hr')
  cases hstarts

/-! ## To the end of a course -/

theorem timely_of_pick {service : TimedService} {p : Pick} (h : pick x.2 = some p)
    (hown : ∀ call, service (call :: x.1.calls) =
      own p.earlier.length (call :: x.1.callsBy p.earlier.length)) :
    Timely s own p.earlier.length x (move s service x.1 p) := by
  obtain ⟨d, runs⟩ := x
  obtain ⟨rfl, hfirst⟩ := pick_eq_some_iff.1 h
  refine .act service d p hfirst.due (fun r hr u hu => ?_) hown
  rcases List.mem_append.1 hr with hr | hr
  · exact Nat.le_of_lt (hfirst.earlier r hr u hu)
  · exact hfirst.later r hr u hu

/-- A schedule is a course, if what the service replies to a run depends on the calls of this run
alone. -/
theorem course_play {service : TimedService}
    (hown : ∀ (d : Desk) k call, service (call :: d.calls) = own k (call :: d.callsBy k))
    (d : Desk) (runs : List Run) : Course s own (d, runs) (play s service d runs) := by
  fun_induction play s service d runs with
  | case1 d runs hp => exact .refl
  | case2 d runs p hp _ ih =>
    have hmove : Timely s own p.earlier.length (d, runs) (move s service d p) :=
      timely_of_pick hp (hown d _)
    exact ih.head ⟨_, hmove⟩

theorem course_run {service : TimedService}
    (hown : ∀ (d : Desk) k call, service (call :: d.calls) = own k (call :: d.callsBy k))
    (jobs : List Appointment) : Course s own (outset jobs) (run s service jobs) :=
  course_play hown .quiet _

theorem exists_course_to_end (s : TimedSolver) (own : Nat → TimedService) (x : Desk × List Run) :
    ∃ y, Course s own x y ∧ ∀ r ∈ y.2, ∃ result, r.stage = .closed result := by
  -- every move brings the runs nearer to their end
  generalize hn : rank s x.2 = n
  induction n using Nat.strongRecOn generalizing x with
  | ind n ih =>
    subst hn
    cases hp : pick x.2 with
    | none => exact ⟨x, .refl, fun r hr => Run.due_eq_none.1 (due_of_pick_none hp r hr)⟩
    | some p =>
      let service : TimedService := fun calls =>
        own p.earlier.length (calls.take 1 ++ x.1.callsBy p.earlier.length)
      obtain ⟨y, hcourse, hend⟩ := ih _ (rank_move s service x.1 hp) (move s service x.1 p) rfl
      exact ⟨y, .head ⟨_, timely_of_pick hp fun _ => rfl⟩ hcourse, hend⟩

end Schedule

/-! ## Tasks of their own -/

/-- A handle on which a run of this appointment may start a loop, by what the service replies to
it. -/
def Appointment.MayPoll (s : TimedSolver) (service : TimedService) (job : Appointment)
    (handle : String) : Prop :=
  match job.errand with
  | .solve package request => ∃ calls,
    s.afterSubmit package (service (.submit package request :: calls)).answer = .ok handle
  | .poll other => other = handle
  | .submit .. | .look _ => False

namespace Run

/-- A handle that a run polls, or is about to poll. -/
def Near (s : TimedSolver) (r : Run) (handle : String) : Prop :=
  r.starts s = some handle ∨ r.stage.polled = some handle

variable {s : TimedSolver} {job : Appointment} {now : Nat} {handle : String}

theorem near_of_enter {claims : Claims} {deeds : List Deed} {other : String}
    (h : Near s ⟨job, (enter s job now claims deeds other).stage⟩ handle) : other = handle := by
  by_cases hm : other ∈ claims
  · rw [enter_of_mem s job now hm] at h
    simp [Near, finish, starts, Stage.polled] at h
  · rw [enter_of_not_mem s job now hm] at h
    simpa [Near, starts, Stage.polled, PollPolicy.start] using h

theorem near_of_finish {claims : Claims} {deeds : List Deed} {result : Except SolveFault Outcome} :
    ¬ Near s ⟨job, (finish job claims deeds result).stage⟩ handle := by
  simp [Near, finish, starts, Stage.polled]

theorem near_turn {f : Setting} {stage : Stage}
    (h : Near s ⟨job, (turn s job now f stage).stage⟩ handle) :
    Near s ⟨job, stage⟩ handle ∨ ∃ package request, job.errand = .solve package request ∧
      s.afterSubmit package (f.reply (.submit package request)).answer = .ok handle := by
  cases stage with
  | before =>
    cases herrand : job.errand with
    | solve package request =>
      refine .inr ⟨package, request, rfl, ?_⟩
      cases hsubmit : s.afterSubmit package (f.reply (.submit package request)).answer <;>
        simp_all [turn, ask, Near, starts, Stage.polled, Errand.polls, Except.toOption]
    | submit package request =>
      simp [turn, herrand, ask, Near, starts, Stage.polled, Errand.polls] at h
    | poll other =>
      simp only [turn, herrand] at h
      obtain rfl := near_of_enter h
      exact .inl (.inl (by simp [starts, herrand]))
    | look other =>
      simp [turn, herrand, Near, starts, Stage.polled] at h
  | submitting due package answer =>
    cases hsubmit : s.afterSubmit package answer with
    | error fault =>
      simp only [turn, hsubmit] at h
      exact absurd h near_of_finish
    | ok other =>
      by_cases hpolls : job.errand.polls = true
      · simp only [turn, hsubmit, if_pos hpolls] at h
        obtain rfl := near_of_enter h
        exact .inl (.inl (by simp [starts, hsubmit, hpolls, Except.toOption]))
      · simp [turn, hsubmit, hpolls, Near, starts, Stage.polled] at h
  | waiting due a =>
    refine .inl (.inr ?_)
    simp only [turn] at h
    split at h
    · exact absurd h near_of_finish
    · simpa [Near, ask, starts, Stage.polled] using h
  | checking due a answer =>
    refine .inl (.inr ?_)
    simp only [turn] at h
    split at h
    · exact absurd h near_of_finish
    · cases hcheck : s.afterCheck a answer with
      | ended result =>
        rw [hcheck] at h
        exact absurd h near_of_finish
      | wait b =>
        obtain ⟨-, -, rfl⟩ := Solver.afterCheck_eq_wait.1 hcheck
        have hhandle : a.next.handle = handle := by
          simpa [hcheck, Near, starts, Stage.polled] using h
        exact congrArg some hhandle
  | closed result => exact .inl h

end Run

namespace Schedule

variable {s : TimedSolver} {own : Nat → TimedService} {jobs : List Appointment}
  {x y : Desk × List Run} {k : Nat}

/-- Every run keeps to its appointment, and to the handles on which it may start a loop. -/
def Keeping (s : TimedSolver) (own : Nat → TimedService) (jobs : List Appointment)
    (x : Desk × List Run) : Prop :=
  ∀ (i : Nat) (r : Run), x.2[i]? = some r → jobs[i]? = some r.job ∧
    ∀ handle, r.Near s handle → r.job.MayPoll s (own i) handle

theorem keeping_outset (jobs : List Appointment) : Keeping s own jobs (outset jobs) := by
  intro i r hr
  obtain ⟨job, hjob, rfl⟩ : ∃ job, jobs[i]? = some job ∧ Run.mk job .before = r := by
    simpa [outset] using hr
  refine ⟨hjob, fun handle hnear => ?_⟩
  cases herrand : job.errand <;>
    simp_all [Run.Near, Run.starts, Stage.polled, Appointment.MayPoll]

theorem Keeping.timely (h : Timely s own k x y) (hx : Keeping s own jobs x) :
    Keeping s own jobs y := by
  cases h with
  | act service d p _ _ hown =>
    intro i r hr
    by_cases hi : p.earlier.length = i
    · subst hi
      obtain ⟨hjob, hnear⟩ := hx p.earlier.length p.run (by simp)
      obtain rfl := Option.some.inj ((getElem?_move s service d p).symm.trans hr)
      refine ⟨hjob, fun handle hn => ?_⟩
      rcases Run.near_turn hn with hn | ⟨package, request, herrand, hsubmit⟩
      · exact hnear handle hn
      · have hmay : ∃ calls, s.afterSubmit package
            (own p.earlier.length (.submit package request :: calls)).answer = .ok handle :=
          ⟨d.callsBy p.earlier.length, hown (.submit package request) ▸ hsubmit⟩
        simpa [Appointment.MayPoll, herrand] using hmay
    · exact hx i r (getElem?_move_ne s service d hi ▸ hr)

/-- Runs with tasks of their own do not meet on a handle. -/
theorem Course.apart
    (hdistinct : ∀ i j (job job' : Appointment) handle, jobs[i]? = some job →
      jobs[j]? = some job' → job.MayPoll s (own i) handle → job'.MayPoll s (own j) handle → i = j)
    (h : Course s own (outset jobs) x) : Apart s own (outset jobs) x := by
  suffices hkeep : Apart s own (outset jobs) x ∧ Keeping s own jobs x from hkeep.1
  induction h with
  | refl => exact ⟨.refl, keeping_outset jobs⟩
  | tail _ hm ih =>
    obtain ⟨hapart, hkeep⟩ := ih
    obtain ⟨k, hm⟩ := hm
    refine ⟨hapart.tail ⟨k, hm, ?_⟩, hkeep.timely hm⟩
    rintro ⟨r, handle, hr, hstarts, hclaimed⟩
    obtain ⟨r', hr', hpolled⟩ := mem_running.1 hclaimed
    obtain ⟨j, hj⟩ := List.mem_iff_getElem?.1 hr'
    obtain ⟨hjob, hmay⟩ := hkeep k r hr
    obtain ⟨hjob', hmay'⟩ := hkeep j r' hj
    obtain rfl := hdistinct k j _ _ handle hjob hjob' (hmay handle (.inl hstarts))
      (hmay' handle (.inr hpolled))
    obtain rfl : r = r' := Option.some.inj (hr.symm.trans hj)
    rw [Run.polled_of_starts hstarts] at hpolled
    cases hpolled

end Schedule

end PlanCourier

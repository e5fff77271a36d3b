import PlanCourier.Proofs.Solve.Course

/-!
# Stopping a solve

A solve that is told to stop, beside the same solve that nobody stops, among the same other runs and
with the same service. Up to the order both take the same turns and find the same setting in them.
From the order on the one that is told to stop does nothing but end.

The order may come at any moment that is not the end of a wait: there the two would depend on which
of two things that happen in one millisecond comes first.

Main statements:

- `polling_of_unstopped`: the times in the course of a loop that nobody stops;
- `CutShort.of_lt`, `CutShort.turn` and `CutShort.ended`: a turn that the order forestalls, and one
  that comes before the order;
- `takesCourses`: a loop beside the same loop that is told to stop;
- `stopped_solve`: a solve beside the same solve that is told to stop.
-/

namespace PlanCourier

/-- The same appointment with an order to stop. -/
def Appointment.stopping (job : Appointment) (t : Nat) : Appointment := { job with stop := some t }

@[simp] theorem Appointment.errand_stopping (job : Appointment) (t : Nat) :
    (job.stopping t).errand = job.errand := rfl

/-- The moments at which the waits end that a deed begins or ends: a check is sent when it is due,
and an answer comes after a while. -/
def waitEnds : Nat × Deed → List Nat
  | (now, .called (.submit ..) reply) => [now + reply.delay]
  | (now, .called (.check ..) reply) => [now, now + reply.delay]
  | _ => []

/-! ## The times in the course of a loop -/

section
variable {s : TimedSolver} {job : Appointment}

/-- A loop that nobody stops sends its check when it is due, and does nothing more before it has the
answer. -/
theorem polling_of_unstopped (hjob : job.stop = none) {last : Nat} {a : Attempt}
    {deeds : List (Nat × Deed)} {result : Except SolveFault Outcome}
    (h : Polling s job last a deeds result) :
    ∃ reply rest, deeds =
        (last + s.pause, .called (.check a.handle s.adaptor) reply) :: rest ∧
      (∀ e ∈ rest, last + s.pause + reply.delay ≤ e.1) ∧
      ∃ e ∈ rest, e.1 = last + s.pause + reply.delay := by
  induction h with
  | idle h => simp [Appointment.cut_of_unstopped hjob] at h
  | unheard _ _ h => simp [Appointment.cut_of_unstopped hjob] at h
  | @settled last sent a reply result hsent =>
    subst hsent
    refine ⟨reply, _, rfl, ?_, _, List.mem_of_getLast? (job.getLast?_close ..), rfl⟩
    intro e he
    exact Nat.le_of_eq (Appointment.time_of_mem_close he).symm
  | @again last sent a b reply deeds result hsent _ _ _ _ ih =>
    subst hsent
    obtain ⟨next, rest, rfl, hle, -⟩ := ih
    refine ⟨reply, _, rfl, ?_, _, List.mem_cons_self, rfl⟩
    intro e he
    rcases List.mem_cons.1 he with rfl | he
    · exact Nat.le_refl _
    rcases List.mem_cons.1 he with rfl | he
    · exact Nat.le_add_right ..
    have := hle e he
    omega

theorem exists_end_of_polling (hjob : job.stop = none) {last : Nat} {a : Attempt}
    {deeds : List (Nat × Deed)} {result : Except SolveFault Outcome}
    (h : Polling s job last a deeds result) :
    ∃ finish, last ≤ finish ∧ deeds.getLast? = some (finish, .ended (result.map .outcome)) ∧
      ∀ e ∈ deeds, e.1 ≤ finish := by
  induction h with
  | idle h => simp [Appointment.cut_of_unstopped hjob] at h
  | unheard _ _ h => simp [Appointment.cut_of_unstopped hjob] at h
  | @settled last sent a reply result hsent =>
    refine ⟨sent + reply.delay, by omega, ?_, ?_⟩
    · rw [List.getLast?_cons, job.getLast?_close]
      rfl
    · intro e he
      rcases List.mem_cons.1 he with rfl | he
      · exact Nat.le_add_right ..
      · exact Nat.le_of_eq (Appointment.time_of_mem_close he)
  | @again last sent a b reply deeds result hsent _ _ _ _ ih =>
    obtain ⟨finish, hle, hlast, hall⟩ := ih
    refine ⟨finish, by omega, ?_, ?_⟩
    · rw [List.getLast?_cons, List.getLast?_cons, hlast]
      rfl
    · intro e he
      rcases List.mem_cons.1 he with rfl | he
      · exact Nat.le_trans (Nat.le_add_right ..) hle
      rcases List.mem_cons.1 he with rfl | he
      · exact hle
      exact hall e he

theorem mem_waitEnds_of_polling (hjob : job.stop = none) {last : Nat} {a : Attempt}
    {deeds : List (Nat × Deed)} {result : Except SolveFault Outcome}
    (h : Polling s job last a deeds result) : ∀ e ∈ deeds, e.1 ∈ deeds.flatMap waitEnds := by
  induction h with
  | idle h => simp [Appointment.cut_of_unstopped hjob] at h
  | unheard _ _ h => simp [Appointment.cut_of_unstopped hjob] at h
  | settled =>
    intro e he
    rcases List.mem_cons.1 he with rfl | he
    · simp [waitEnds]
    · simp [waitEnds, Appointment.time_of_mem_close he]
  | again _ _ _ _ _ ih =>
    intro e he
    rcases List.mem_cons.1 he with rfl | he
    · simp [waitEnds]
    rcases List.mem_cons.1 he with rfl | he
    · simp [waitEnds]
    have := ih e he
    simp [waitEnds, this]

end

/-! ## Two loops beside each other -/

namespace Schedule

variable {s : TimedSolver} {service : TimedService} {job : Appointment}

/-- What comes of a run, and of the same run that is told to stop at `t`, from this state on, in
which the run has waited since `last`. If the run is over before `t`, the order changes nothing.
If it is not, the order leaves what the run does before `t`, and then the run ends as cancelled. -/
structure CutShort (s : TimedSolver) (service : TimedService) (job : Appointment) (t last : Nat)
    (d : Desk) (earlier : List Run) (stage : Stage) (later : List Run)
    (deeds : List (Nat × Deed)) (result : Except SolveFault Outcome) : Prop where
  same : (∀ e ∈ deeds, e.1 < t) →
    Yields s service d earlier ⟨job.stopping t, stage⟩ later deeds (result.map .outcome)
  cut : (∃ e ∈ deeds, t < e.1) →
    Yields s service d earlier ⟨job.stopping t, stage⟩ later
      (deeds.filter (·.1 < t) ++ job.close (max last t) (.ok .cancelled))
      (.ok (.outcome .cancelled))

theorem CutShort.of_lt {t last u : Nat} {a : Attempt} {stage : Stage}
    (hstage : stage = .waiting u a ∨ ∃ answer, stage = .checking u a answer) (ht : t < u)
    {d : Desk} {earlier later : List Run} (hlast : last ≤ d.now)
    (hnow : d.now ≤ max last (Run.sooner u (some t))) {deeds : List (Nat × Deed)}
    (hdeeds : ∃ e ∈ deeds, t < e.1) (hle : ∀ e ∈ deeds, u ≤ e.1)
    (result : Except SolveFault Outcome) :
    CutShort s service job t last d earlier stage later deeds result := by
  constructor
  · intro hover
    obtain ⟨e, he, hlt⟩ := hdeeds
    have := hover e he
    omega
  · intro _
    have hdue : Run.due ⟨job.stopping t, stage⟩ = some (Run.sooner u (some t)) := by
      rcases hstage with rfl | ⟨answer, rfl⟩ <;> rfl
    obtain ⟨d₁, d₂, earlier₁, later₁, -, hturn⟩ :=
      exists_turn s service ⟨job.stopping t, stage⟩ hdue d earlier later hlast hnow
    have hcut : (job.stopping t).cut last u = some (max last t) := by
      simp [Appointment.cut, Appointment.stopping, Nat.le_of_lt ht]
    obtain ⟨hmoment, hstop⟩ := Run.moment_of_cut hcut
    dsimp only at hturn
    rw [show max last (Run.sooner u (some t)) = max last t from hmoment,
      Run.turn_of_cut hstage hstop] at hturn
    have hnone : deeds.filter (·.1 < t) = [] := by
      rw [List.filter_eq_nil_iff]
      intro e he
      have := hle e he
      simp
      omega
    rw [hnone]
    exact .of_last hturn

section
variable {t last u : Nat} {d d₂ : Desk} {earlier earlier₁ later later₁ : List Run}
  {stage stage₁ : Stage} {now : List Deed} {result : Except SolveFault Outcome}

/-- The turn comes before the order, and the run goes on. -/
theorem CutShort.turn {deeds : List (Nat × Deed)} (hlast : last ≤ u) (hu : u < t)
    (hturn : ∀ deeds result,
      Yields s service d₂ earlier₁ ⟨job.stopping t, stage₁⟩ later₁ deeds result →
      Yields s service d earlier ⟨job.stopping t, stage⟩ later (now.map (u, ·) ++ deeds) result)
    (h : CutShort s service job t u d₂ earlier₁ stage₁ later₁ deeds result) :
    CutShort s service job t last d earlier stage later (now.map (u, ·) ++ deeds) result := by
  have hnow : ∀ e ∈ now.map (u, ·), e.1 < t := by
    intro e he
    obtain ⟨deed, -, rfl⟩ := List.mem_map.1 he
    exact hu
  constructor
  · intro hover
    apply hturn
    apply h.same
    intro e he
    exact hover e (List.mem_append_right _ he)
  · rintro ⟨e, he, hlt⟩
    rcases List.mem_append.1 he with he | he
    · have := hnow e he
      omega
    have hkeep : (now.map (u, ·)).filter (·.1 < t) = now.map (u, ·) := by
      rw [List.filter_eq_self]
      intro e he
      simpa using hnow e he
    have hmax : max last t = max u t := by omega
    rw [List.filter_append, hkeep, hmax, List.append_assoc]
    exact hturn _ _ (h.cut ⟨e, he, hlt⟩)

/-- The turn comes before the order, and with it the run is over. -/
theorem CutShort.ended (hu : u < t)
    (hturn : ∀ deeds result',
      Yields s service d₂ earlier₁ ⟨job.stopping t, .closed (result.map .outcome)⟩ later₁ deeds
        result' →
      Yields s service d earlier ⟨job.stopping t, stage⟩ later (now.map (u, ·) ++ deeds)
        result') :
    CutShort s service job t last d earlier stage later (now.map (u, ·)) result := by
  constructor
  · intro _
    exact .of_last hturn
  · rintro ⟨e, he, hlt⟩
    obtain ⟨deed, -, rfl⟩ := List.mem_map.1 he
    exact absurd hlt (Nat.not_lt.2 (Nat.le_of_lt hu))

end

/-- Among the same other runs, the loop that nobody stops takes a course from this attempt on, and
the order to stop at `t` cuts it short. -/
def TakesCourses (s : TimedSolver) (service : TimedService) (job : Appointment) (t : Nat)
    (a : Attempt) : Prop :=
  ∀ (last : Nat) (d : Desk) (earlier later : List Run), last ≤ d.now →
    d.now ≤ max last (Run.sooner (last + s.pause) (some t)) →
    ∃ deeds result, Polling s job last a deeds result ∧
      Yields s service d earlier ⟨job, .waiting (last + s.pause) a⟩ later deeds
        (result.map .outcome) ∧
      ((∀ e ∈ deeds, e.1 ≠ t) → CutShort s service job t last d earlier
        (.waiting (last + s.pause) a) later deeds result)

section
variable (hjob : job.stop = none) {t : Nat}
include hjob

/-- Up to the order, both loops wait as long and take the same turn. -/
theorem same_turn {last u : Nat} {a : Attempt} {stage : Stage}
    (hstage : stage = .waiting u a ∨ ∃ answer, stage = .checking u a answer) (hlast : last ≤ u)
    (hu : u < t) :
    Run.due ⟨job, stage⟩ = some u ∧ Run.due ⟨job.stopping t, stage⟩ = some u ∧
      Run.isStopped job u = false ∧
      ∀ f, Run.turn s (job.stopping t) (max last u) f stage =
        Run.turn s job (max last u) f stage := by
  have hfree : Run.isStopped job u = false := by simp [Run.isStopped, hjob]
  have hstopped : Run.isStopped (job.stopping t) u = false := by
    simp [Run.isStopped, Appointment.stopping, hu]
  have hmin : min u t = u := Nat.min_eq_left (Nat.le_of_lt hu)
  refine ⟨?_, ?_, hfree, fun f => ?_⟩
  · rcases hstage with rfl | ⟨answer, rfl⟩ <;> simp [Run.due, hjob, Run.sooner]
  · rcases hstage with rfl | ⟨answer, rfl⟩ <;>
      simp [Run.due, Appointment.stopping, Run.sooner, hmin]
  · rw [Nat.max_eq_right hlast]
    exact Run.turn_congr (job.errand_stopping t) (.inr (hstopped.trans hfree.symm)) f

/-- The half of the courses from the moment on at which a check is sent. -/
theorem exists_checked_both {a : Attempt}
    (ih : ∀ b, b.left < a.left → TakesCourses s service job t b) (last : Nat) (reply : Reply)
    (d : Desk) (earlier later : List Run) (hlast : last + s.pause ≤ d.now)
    (hnow : d.now ≤ max (last + s.pause)
      (Run.sooner (last + s.pause + reply.delay) (some t))) :
    ∃ deeds result,
      Polling s job last a ((last + s.pause,
        .called (.check a.handle s.adaptor) reply) :: deeds) result ∧
      Yields s service d earlier
        ⟨job, .checking (last + s.pause + reply.delay) a reply.answer⟩ later deeds
        (result.map .outcome) ∧
      ((∀ e ∈ deeds, e.1 ≠ t) → CutShort s service job t (last + s.pause) d earlier
        (.checking (last + s.pause + reply.delay) a reply.answer) later deeds result) := by
  set sent := last + s.pause with hsent
  have hw := Appointment.cut_of_unstopped hjob last sent
  have hc := Appointment.cut_of_unstopped hjob sent (sent + reply.delay)
  have hnow' : d.now ≤ max sent (sent + reply.delay) := by
    simp only [Run.sooner] at hnow
    omega
  by_cases ht : sent + reply.delay < t
  · obtain ⟨hdue, hdue', hgo, hsame⟩ :=
      same_turn hjob (s := s) (a := a) (.inr ⟨reply.answer, rfl⟩) (Nat.le_add_right sent _) ht
    have hmax : max sent (sent + reply.delay) = sent + reply.delay :=
      Nat.max_eq_right (Nat.le_add_right ..)
    obtain ⟨d₁, d₂, earlier₁, later₁, -, -, -, hnow₂, hturn⟩ :=
      exists_turns s service job (job.stopping t) _ hdue hdue' hsame d earlier later hlast hnow'
    rw [hmax] at hturn hnow₂
    cases ha : s.afterCheck a reply.answer with
    | ended result =>
      rw [Run.turn_settled hgo ha] at hturn
      exact ⟨_, _, .settled hsent hw hc ha, .of_last (hturn job (.inl rfl)),
        fun _ => .ended ht (hturn _ (.inr rfl))⟩
    | wait b =>
      rw [Run.turn_again hgo ha] at hturn
      obtain ⟨deeds, result, hp, hy, hcut⟩ := ih b (Solver.left_lt_of_afterCheck ha)
        (sent + reply.delay) d₂ earlier₁ later₁ (by omega) (by omega)
      refine ⟨_, _, .again hsent hw hc ha hp, hturn job (.inl rfl) _ _ hy, fun hne => ?_⟩
      apply CutShort.turn (Nat.le_add_right ..) ht (hturn _ (.inr rfl))
      apply hcut
      intro e he
      exact hne e (List.mem_cons_of_mem _ he)
  · -- the order comes before the answer, or just with it
    obtain ⟨deeds, result, hp, hy⟩ := exists_checked s service job
      (fun b _ => takesCourse s service job b) sent reply d earlier later hlast
      (by simpa [Run.sooner, hjob] using hnow')
    have hpolling := hp last hsent hw
    obtain ⟨_, _, heq, hle, hex⟩ := polling_of_unstopped hjob hpolling
    obtain ⟨hfirst, rfl⟩ := List.cons.inj heq
    obtain ⟨-, rfl⟩ := Deed.called.inj (Prod.mk.inj hfirst).2
    refine ⟨_, _, hpolling, hy, fun hne => ?_⟩
    obtain ⟨e, he, harrival⟩ := hex
    have hlt : t < sent + reply.delay := by
      have := hne e he
      omega
    exact .of_lt (.inr ⟨_, rfl⟩) hlt hlast hnow ⟨e, he, by omega⟩ hle result

theorem takesCourses (s : TimedSolver) (service : TimedService) (t : Nat) (a : Attempt) :
    TakesCourses s service job t a := by
  generalize hn : a.left = n
  induction n using Nat.strongRecOn generalizing a with
  | ind n ih =>
    subst hn
    intro last d earlier later hlast hnow
    have hnow' : d.now ≤ max last (last + s.pause) := by
      simp only [Run.sooner] at hnow
      omega
    by_cases ht : last + s.pause < t
    · obtain ⟨hdue, hdue', hgo, hsame⟩ :=
        same_turn hjob (s := s) (a := a) (.inl rfl) (Nat.le_add_right last _) ht
      have hmax : max last (last + s.pause) = last + s.pause :=
        Nat.max_eq_right (Nat.le_add_right ..)
      obtain ⟨d₁, d₂, earlier₁, later₁, -, -, -, hnow₂, hturn⟩ :=
        exists_turns s service job (job.stopping t) _ hdue hdue' hsame d earlier later hlast hnow'
      rw [hmax, Run.turn_waiting hgo] at hturn
      rw [hmax] at hnow₂
      obtain ⟨deeds, result, hp, hy, hcut⟩ := exists_checked_both hjob
        (fun b hb => ih _ hb b rfl) last
        ((d₁.setting service).reply (.check a.handle s.adaptor)) d₂ earlier₁ later₁
        (by omega) (by omega)
      refine ⟨_, _, hp, hturn job (.inl rfl) _ _ hy, fun hne => ?_⟩
      apply CutShort.turn (Nat.le_add_right ..) ht (hturn _ (.inr rfl))
      apply hcut
      intro e he
      exact hne e (List.mem_cons_of_mem _ he)
    · -- the order comes before the check, or just with it
      obtain ⟨deeds, result, hp, hy⟩ := takesCourse s service job a last d earlier later hlast
        (by simpa [Run.sooner, hjob] using hnow')
      obtain ⟨reply, rest, rfl, hle, -⟩ := polling_of_unstopped hjob hp
      refine ⟨_, _, hp, hy, fun hne => ?_⟩
      have hlt : t < last + s.pause := by
        have := hne _ List.mem_cons_self
        dsimp only at this
        omega
      refine .of_lt (.inl rfl) hlt hlast hnow ⟨_, List.mem_cons_self, hlt⟩ ?_ result
      intro e he
      rcases List.mem_cons.1 he with rfl | he
      · exact Nat.le_refl _
      · have := hle e he
        omega

end

end Schedule

/-! ## Two solves beside each other -/

/-- The result of a solve that started no loop: the submission led to no task, or another loop polls
the task. -/
def IsUnpolled (result : Except SolveFault Outcome) : Prop :=
  (∃ cause, result = .error (.submission cause)) ∨ (∃ url, result = .error (.noHandle url)) ∨
    ∃ handle, result = .error (.alreadyPolling handle)

theorem isUnpolled_of_afterSubmit {s : Solver} {package : String}
    {answer : Except ServiceFault Json} {fault : SolveFault}
    (h : s.afterSubmit package answer = .error fault) : IsUnpolled (.error fault) := by
  rcases Solver.afterSubmit_eq_error h with ⟨cause, -, rfl⟩ | ⟨_, -, -, rfl⟩
  · exact .inl ⟨cause, rfl⟩
  · exact .inr (.inl ⟨_, rfl⟩)

theorem not_isUnpolled_of_polling {s : TimedSolver} {job : Appointment} {last : Nat} {a : Attempt}
    {deeds : List (Nat × Deed)} {result : Except SolveFault Outcome}
    (h : Polling s job last a deeds result) : ¬ IsUnpolled result := by
  rintro (⟨cause, hr⟩ | ⟨url, hr⟩ | ⟨handle, hr⟩)
  all_goals
    obtain ⟨_, _, hf⟩ := Schedule.fault_of_polling h hr
    simp at hf

/-- Among the same other runs, a solve that nobody stops, and the same solve told to stop at `t`. -/
theorem Schedule.exists_solving_both (s : TimedSolver) (service : TimedService) (package : String)
    (request : Request) (start t : Nat) (d : Desk) (earlier later : List Run)
    (hnow : d.now ≤ start) :
    ∃ (first : Reply) (rest : List (Nat × Deed)) (finish : Nat)
        (result : Except SolveFault Outcome),
      Yields s service d earlier ⟨.solve package request start none, .before⟩ later
        ((start, .called (.submit package request) first) :: rest) (result.map .outcome) ∧
      rest.getLast? = some (finish, .ended (result.map .outcome)) ∧
      (finish < t ∨ IsUnpolled result →
        t ∉ rest.flatMap waitEnds →
        Yields s service d earlier ⟨.solve package request start (some t), .before⟩ later
          ((start, .called (.submit package request) first) :: rest) (result.map .outcome)) ∧
      (¬ (finish < t ∨ IsUnpolled result) →
        t ∉ rest.flatMap waitEnds →
        ∃ loop, rest = (start + first.delay, .told .initiated) :: loop ∧
          Yields s service d earlier ⟨.solve package request start (some t), .before⟩ later
            ((start, .called (.submit package request) first) ::
              (start + first.delay, .told .initiated) :: (loop.filter (·.1 < t) ++
                (Appointment.solve package request start none).close
                  (max (start + first.delay) t) (.ok .cancelled)))
            (.ok (.outcome .cancelled))) := by
  obtain ⟨first, d₁, d₂, earlier₁, later₁, turn, hturn, -, -, hnow₂, hyields⟩ :=
    exists_submission s service package request start none (some t) d earlier later hnow
  cases hs : s.afterSubmit package first.answer with
  | error fault =>
    obtain rfl := hturn.trans (Run.turn_unstarted hs _)
    have hun := isUnpolled_of_afterSubmit hs
    refine ⟨first, _, start + first.delay, .error fault, .of_last (hyields none (.inl rfl)),
      Appointment.getLast?_close .., fun _ _ => .of_last (hyields _ (.inr rfl)), fun hn => ?_⟩
    exact absurd (.inr hun) hn
  | ok handle =>
    have hstart := hturn.trans (Run.turn_started rfl rfl hs _)
    by_cases hm : handle ∈ d₁.claims
    · obtain rfl := hstart.trans (Run.enter_of_mem s _ _ hm _)
      have hun : IsUnpolled (.error (.alreadyPolling handle)) := .inr (.inr ⟨handle, rfl⟩)
      refine ⟨first, _, start + first.delay, .error (.alreadyPolling handle),
        .of_last (hyields none (.inl rfl)), ?_, fun _ _ => .of_last (hyields _ (.inr rfl)),
        fun hn => absurd (.inr hun) hn⟩
      simp [Run.finish, Run.closing, List.getLast?_cons]
    · obtain rfl := hstart.trans (Run.enter_of_not_mem s _ _ hm _)
      have hstop : (Appointment.solve package request start none).stop = none := rfl
      obtain ⟨deeds, result, hp, hy, hcut⟩ := takesCourses hstop s service t
        (s.policy.start handle) (start + first.delay) d₂ earlier₁ later₁
        (Nat.le_of_eq hnow₂.symm) (Nat.le_trans (Nat.le_of_eq hnow₂) (Nat.le_max_left ..))
      obtain ⟨finish, -, hlast, hle⟩ := exists_end_of_polling hstop hp
      have hstopped := hyields (some t) (.inr rfl)
      have hne : t ∉ ((start + first.delay, Deed.told .initiated) :: deeds).flatMap waitEnds →
          ∀ e ∈ deeds, e.1 ≠ t := by
        rintro ht e he rfl
        apply ht
        rw [List.flatMap_cons]
        exact List.mem_append_right _ (mem_waitEnds_of_polling hstop hp e he)
      refine ⟨first, _, finish, result, hyields none (.inl rfl) _ _ hy, ?_, ?_, ?_⟩
      · simp [List.getLast?_cons, hlast]
      · intro hover ht
        have hlt : finish < t := hover.resolve_right (not_isUnpolled_of_polling hp)
        apply hstopped
        apply (hcut (hne ht)).same
        intro e he
        exact Nat.lt_of_le_of_lt (hle e he) hlt
      · intro hn ht
        have hmem := List.mem_of_getLast? hlast
        have hlt : t < finish :=
          Nat.lt_of_le_of_ne (Nat.not_lt.1 (not_or.1 hn).1) (hne ht _ hmem).symm
        refine ⟨deeds, rfl, ?_⟩
        exact hstopped _ _ ((hcut (hne ht)).cut ⟨_, hmem, hlt⟩)

/-- A solve that is told to stop at `t`, beside the same solve that nobody stops, among the same
other runs and with the same service; `t` is not the end of a wait. If the solve is over before `t`
or starts no loop, the order changes nothing. Else the order leaves the submission, the notice that
it led to a task, and what the loop does before `t`. Then comes the notice that the solve was
cancelled, nothing is shown, and the solve ends as cancelled, at `t` or when the answer to the
submission comes, whichever is later. -/
theorem stopped_solve (s : TimedSolver) (service : TimedService) (jobs : List Appointment) (i : Nat)
    (package : String) (request : Request) (start t : Nat)
    (hjob : jobs[i]? = some (.solve package request start none))
    (ht : t ∉ ((Schedule.run s service jobs).1.account i).flatMap waitEnds) :
    let free := Schedule.run s service jobs
    let stopped := Schedule.run s service (jobs.set i (.solve package request start (some t)))
    ∃ (first : Reply) (rest : List (Nat × Deed)) (finish : Nat)
        (result : Except SolveFault Outcome),
      free.1.account i = (start, .called (.submit package request) first) :: rest ∧
      free.2[i]? =
        some ⟨.solve package request start none, .closed (result.map .outcome)⟩ ∧
      rest.getLast? = some (finish, .ended (result.map .outcome)) ∧
      (finish < t ∨ IsUnpolled result →
        stopped.1.account i = free.1.account i ∧
        stopped.2[i]? =
          some ⟨.solve package request start (some t), .closed (result.map .outcome)⟩) ∧
      (¬ (finish < t ∨ IsUnpolled result) →
        ∃ loop, rest = (start + first.delay, .told (.success "Task initiated!")) :: loop ∧
          stopped.1.account i = (start, .called (.submit package request) first) ::
            (start + first.delay, .told (.success "Task initiated!")) ::
              (loop.filter (·.1 < t) ++
                [(max (start + first.delay) t, .told (.info "Solve cancelled")),
                  (max (start + first.delay) t, .ended (.ok (.outcome .cancelled)))]) ∧
          stopped.2[i]? = some ⟨.solve package request start (some t),
            .closed (.ok (.outcome .cancelled))⟩) := by
  intro free stopped
  obtain ⟨earlier, later, rfl, hset, hset'⟩ := Schedule.outset_of_getElem? hjob
  obtain ⟨first, rest, finish, result, hy, hlast, hover, hcut⟩ :=
    Schedule.exists_solving_both s service package request start t .quiet earlier later
      (Nat.zero_le start)
  obtain ⟨haccount, hruns⟩ := hy.of_outset hset
  have hrest : t ∉ rest.flatMap waitEnds := by
    rw [haccount, List.flatMap_cons] at ht
    exact fun h => ht (List.mem_append_right _ h)
  refine ⟨first, rest, finish, result, haccount, hruns, hlast, ?_, ?_⟩
  · intro h
    obtain ⟨haccount', hruns'⟩ := (hover h hrest).of_outset (hset' _)
    exact ⟨haccount'.trans haccount.symm, hruns'⟩
  · intro h
    obtain ⟨loop, hloop, hy'⟩ := hcut h hrest
    obtain ⟨haccount', hruns'⟩ := hy'.of_outset (hset' _)
    exact ⟨loop, hloop, haccount', hruns'⟩

/-- Between its first two checks a solve is stopped at once; without the order it would have found a
plan. -/
theorem stopped_between_checks :
    7500 ∉ ((Schedule.run Sample.solver Sample.service [Sample.job none]).1.account 0).flatMap
      waitEnds ∧
    (Schedule.run Sample.solver Sample.service [Sample.job none]).2[0]? =
      some ⟨Sample.job none, .closed (.ok (.outcome (.succeeded [.ofNames ["stack a b"]])))⟩ ∧
    (Schedule.run Sample.solver Sample.service [Sample.job (some 7500)]).2[0]? =
      some ⟨Sample.job (some 7500), .closed (.ok (.outcome .cancelled))⟩ := by
  have hwaits : ((Schedule.run Sample.solver Sample.service [Sample.job none]).1.account 0).flatMap
      waitEnds = [20, 5020, 5027, 10027, 10034, 15034, 15041] := by decide +kernel
  have ht : 7500 ∉ ((Schedule.run Sample.solver Sample.service
      [Sample.job none]).1.account 0).flatMap waitEnds := by
    rw [hwaits]
    decide
  have hsolved : (Schedule.run Sample.solver Sample.service [Sample.job none]).2[0]? =
      some ⟨Sample.job none, .closed (.ok (.outcome (.succeeded [.ofNames ["stack a b"]])))⟩ := by
    decide +kernel
  have hend : ((Schedule.run Sample.solver Sample.service [Sample.job none]).1.account 0).getLast? =
      some (15041, .ended (.ok (.outcome (.succeeded [.ofNames ["stack a b"]])))) := by decide +kernel
  obtain ⟨first, rest, finish, result, haccount, hruns, hlast, -, hcut⟩ :=
    stopped_solve Sample.solver Sample.service [Sample.job none] 0 _ _ _ 7500 rfl ht
  refine ⟨ht, hsolved, ?_⟩
  rw [haccount, List.getLast?_cons, hlast] at hend
  obtain ⟨rfl, hresult⟩ := Prod.mk.inj (Option.some.inj hend)
  have hfinish : ¬ (15041 < 7500 ∨ IsUnpolled result) := by
    cases result with
    | error fault => simp [Except.map] at hresult
    | ok outcome => simp [IsUnpolled]
  obtain ⟨_, -, -, hcancelled⟩ := hcut hfinish
  exact hcancelled

end PlanCourier

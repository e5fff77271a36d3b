import PlanCourier.Proofs.Solve.Interleaving

/-!
# A run on its own clock

A run does not notice at what time it starts: on a clock that shows zero when it starts it takes the
same turns, each as much earlier as the start is. `Appointment.atOnce` is its appointment on that
clock, and `Stage.later` takes a stage back to the common one. In a turn the run then sees the same
replies; the claims that others hold matter only when it starts a loop.

Main statements:

- `Run.turn_later`: the turns on both clocks;
- `Run.moment_later`: the moments of these turns.
-/

namespace PlanCourier

namespace Appointment

/-- The same errand on a clock that shows zero when it starts. -/
def atOnce (job : Appointment) : Appointment :=
  { job with start := 0, stop := job.stop.map (· - job.start) }

@[simp] theorem errand_atOnce (job : Appointment) : job.atOnce.errand = job.errand := rfl

end Appointment

namespace Stage

/-- The stage on a clock that shows this much more. -/
def later (shift : Nat) : Stage → Stage
  | .before => .before
  | .submitting due package answer => .submitting (shift + due) package answer
  | .waiting due a => .waiting (shift + due) a
  | .checking due a answer => .checking (shift + due) a answer
  | .closed result => .closed result

theorem later_eq_closed {shift : Nat} {stage : Stage} {result : Except SolveFault Delivery} :
    stage.later shift = .closed result ↔ stage = .closed result := by
  cases stage <;> simp [later]

end Stage

namespace Run

variable {s : TimedSolver} {job : Appointment}

theorem starts_later (stage : Stage) :
    starts s ⟨job, stage.later job.start⟩ = starts s ⟨job.atOnce, stage⟩ := by
  cases stage <;> rfl

theorem isStopped_later (now : Nat) :
    isStopped job (job.start + now) = isStopped job.atOnce now := by
  unfold isStopped Appointment.atOnce
  cases job.stop with
  | none => rfl
  | some stop => simp [Nat.add_comm]

/-! ## A turn on both clocks -/

/-- Two turns, one on the common clock and one on the clock of the run, are the same but for the
claims: the deeds are the same, and the stage is as much later. -/
structure LikeTurn (shift : Nat) (t t' : Turn) : Prop where
  deeds : t.deeds = t'.deeds
  stage : t.stage = t'.stage.later shift

theorem likeTurn_finish (claims claims' : Claims) (deeds : List Deed)
    (result : Except SolveFault Outcome) :
    LikeTurn job.start (finish job claims deeds result) (finish job.atOnce claims' deeds result) :=
  ⟨rfl, rfl⟩

theorem likeTurn_ask {f f' : Setting} {call : Call}
    {stage : Nat → Except ServiceFault Json → Stage} (hreply : f.reply call = f'.reply call)
    (hstage : ∀ due answer, stage (job.start + due) answer = (stage due answer).later job.start)
    (now : Nat) :
    LikeTurn job.start (ask (job.start + now) f call stage) (ask now f' call stage) := by
  constructor
  · simp only [ask, hreply]
  · simp only [ask, hreply, Nat.add_assoc, hstage]

theorem likeTurn_enter {claims claims' : Claims} {handle : String} (h : handle ∉ claims)
    (h' : handle ∉ claims') (now : Nat) (deeds : List Deed) :
    LikeTurn job.start (enter s job (job.start + now) claims deeds handle)
      (enter s job.atOnce now claims' deeds handle) := by
  rw [enter_of_not_mem s job _ h, enter_of_not_mem s job.atOnce _ h']
  exact ⟨rfl, by simp [Stage.later, Nat.add_assoc]⟩

/-- A run that is told the same takes the same turn on both clocks. What the others claim makes no
difference, unless the run starts a loop and finds its handle claimed. -/
theorem turn_later {f f' : Setting} {stage : Stage} (now : Nat)
    (hlook : ∀ handle, job.errand ≠ .look handle) (hreply : ∀ call, f.reply call = f'.reply call)
    (hfree : ∀ handle, starts s ⟨job.atOnce, stage⟩ = some handle →
      handle ∉ f.claims ∧ handle ∉ f'.claims) :
    LikeTurn job.start (turn s job (job.start + now) f (stage.later job.start))
      (turn s job.atOnce now f' stage) := by
  cases stage with
  | before =>
    cases herrand : job.errand with
    | solve package request | submit package request =>
      simp only [Stage.later, turn, Appointment.errand_atOnce, herrand]
      exact likeTurn_ask (hreply _) (fun _ _ => rfl) now
    | poll handle =>
      obtain ⟨h, h'⟩ := hfree handle (by simp [starts, herrand])
      simp only [Stage.later, turn, Appointment.errand_atOnce, herrand]
      exact likeTurn_enter h h' now []
    | look handle => exact absurd herrand (hlook handle)
  | submitting due package answer =>
    simp only [Stage.later, turn]
    cases htask : s.afterSubmit package answer with
    | error fault => exact likeTurn_finish ..
    | ok handle =>
      dsimp only
      by_cases hpolls : job.errand.polls = true
      · obtain ⟨h, h'⟩ := hfree handle (by simp [starts, hpolls, htask, Except.toOption])
        rw [if_pos hpolls, if_pos (show job.atOnce.errand.polls = true from hpolls)]
        exact likeTurn_enter h h' now _
      · rw [if_neg hpolls, if_neg (show ¬ job.atOnce.errand.polls = true from hpolls)]
        exact ⟨rfl, rfl⟩
  | waiting due a =>
    simp only [Stage.later, turn, isStopped_later]
    split
    · exact likeTurn_finish ..
    · exact likeTurn_ask (hreply _) (fun _ _ => rfl) now
  | checking due a answer =>
    simp only [Stage.later, turn, isStopped_later]
    split
    · exact likeTurn_finish ..
    · cases s.afterCheck a answer with
      | ended result => exact likeTurn_finish ..
      | wait b => exact ⟨rfl, by simp [Stage.later, Nat.add_assoc]⟩
  | closed result => exact ⟨rfl, rfl⟩

theorem exists_due_of_later {stage : Stage} {u : Nat}
    (h : Run.due ⟨job, stage.later job.start⟩ = some u) :
    ∃ due, Run.due ⟨job.atOnce, stage⟩ = some due := by
  cases stage with
  | before | submitting | waiting | checking => exact ⟨_, rfl⟩
  | closed => cases h

/-- The moment of the next turn on both clocks. A run that is stopped before it starts is stopped
at once, so the two differ by the start there, too. -/
theorem moment_later {stage : Stage} {due : Nat} (h : Run.due ⟨job.atOnce, stage⟩ = some due)
    (now : Nat) : ∃ u, Run.due ⟨job, stage.later job.start⟩ = some u ∧
      max (job.start + now) u = job.start + max now due := by
  have hloop (wait : Nat) : max (job.start + now) (sooner (job.start + wait) job.stop) =
      job.start + max now (sooner wait (job.stop.map (· - job.start))) := by
    cases job.stop with
    | none =>
      simp only [sooner, Option.map_none]
      omega
    | some stop =>
      simp only [sooner, Option.map_some]
      omega
  cases stage with
  | before =>
    obtain rfl : 0 = due := Option.some.inj h
    exact ⟨job.start, rfl, by omega⟩
  | submitting wait package answer =>
    obtain rfl : wait = due := Option.some.inj h
    exact ⟨job.start + wait, rfl, by omega⟩
  | waiting wait a | checking wait a answer =>
    obtain rfl := Option.some.inj h
    exact ⟨_, rfl, hloop wait⟩
  | closed result => cases h

end Run

end PlanCourier

import PlanCourier.Solve.Errand

/-!
# The turns of an errand

An errand moves in turns. In a turn a run sees the clock, the handles that are claimed and what the
service replies, and nothing else of the runs beside it. `Run.turn` is what it makes of that: its
deeds, the handles that are claimed afterwards, and how far it is then.

A loop that is told to stop does so while it waits for its next check or for an answer, and if the
wait ends in the same millisecond, stopping comes first. It ends as cancelled.

What a loop waits with is a timer from outside, which may be exact or not.

Main statement: `rank_turn`, every turn brings a run nearer to its end.
-/

namespace PlanCourier

/-! ## Timers -/

/-- How many milliseconds a timer lasts that is set to so many. -/
abbrev Timer := Nat → Nat

namespace Timer

/-- A timer that ends at its deadline, neither early nor late. -/
def IsExact (t : Timer) : Prop := ∀ ms, t ms = ms

def exact : Timer := id

/-- The timer that loops really run on, which ends a longer wait after thirty years of 365 days. -/
def ofRuntime : Timer := (min · 946080000000)

theorem isExact_exact : exact.IsExact := fun _ => rfl

end Timer

/-- A solver with the timer that its loops wait with. -/
structure TimedSolver extends Solver where
  timer : Timer

instance : Coe Solver TimedSolver := ⟨fun s => ⟨s, .ofRuntime⟩⟩

/-- How long a loop waits before a check. -/
def TimedSolver.pause (s : TimedSolver) : Nat := s.timer s.policy.interval.toNat

theorem TimedSolver.pause_of_isExact {s : TimedSolver} (h : s.timer.IsExact) :
    s.pause = s.policy.interval.toNat := h _

/-! ## Calls and stages -/

inductive Call where
  | submit (package : String) (request : Request)
  | check (handle adaptor : String)
  deriving DecidableEq, Repr

/-- An answer, and how long it takes. -/
structure Reply where
  delay : Nat
  answer : Except ServiceFault Json

/-- An errand, when it starts, and when its loop is told to stop. -/
structure Appointment where
  errand : Errand
  start : Nat
  stop : Option Nat
  deriving DecidableEq, Repr

inductive Stage where
  | before
  /-- The answer to a submission arrives when it is due. -/
  | submitting (due : Nat) (package : String) (answer : Except ServiceFault Json)
  /-- The next check is sent when it is due. -/
  | waiting (due : Nat) (attempt : Attempt)
  /-- The answer to a check arrives when it is due. -/
  | checking (due : Nat) (attempt : Attempt) (answer : Except ServiceFault Json)
  | closed (result : Except SolveFault Delivery)

def Stage.polled : Stage → Option String
  | .waiting _ a | .checking _ a _ => some a.handle
  | _ => none

structure Run where
  job : Appointment
  stage : Stage

/-- What a run does. -/
inductive Deed where
  /-- It calls the service, which is going to reply so. -/
  | called (call : Call) (reply : Reply)
  | told (notice : Notice)
  | looked (handle : String) (flag : Bool)
  /-- It is over. -/
  | ended (result : Except SolveFault Delivery)

def Deed.call? : Deed → Option Call
  | .called call _ => some call
  | _ => none

/-- What a run finds when its turn comes: the claimed handles, and the replies of the service. -/
structure Setting where
  claims : Claims
  reply : Call → Reply

/-- What a run makes of its turn: its deeds in their order, the handles that are claimed then, and
how far the run is. -/
structure Turn where
  deeds : List Deed
  claims : Claims
  stage : Stage

namespace Run

/-- When a loop goes on by itself or is told to stop, whichever comes first. -/
def sooner (due : Nat) : Option Nat → Nat
  | some stop => min due stop
  | none => due

/-- When the run moves next; a run that is over does not. -/
def due (r : Run) : Option Nat :=
  match r.stage with
  | .before => some r.job.start
  | .submitting due _ _ => some due
  | .waiting due _ | .checking due _ _ => some (sooner due r.job.stop)
  | .closed _ => none

/-- Whether the loop of the run was told to stop by now. -/
def isStopped (job : Appointment) (now : Nat) : Bool := job.stop.any (· ≤ now)

variable (s : TimedSolver) (job : Appointment)

def closing (result : Except SolveFault Outcome) : List Deed :=
  (if job.errand.isTold then (Notice.closing result).map .told else []) ++
    [.ended (result.map .outcome)]

/-- The end of an errand, after other deeds of the same turn. -/
def finish (claims : Claims) (deeds : List Deed) (result : Except SolveFault Outcome) : Turn :=
  ⟨deeds ++ closing job result, claims, .closed (result.map .outcome)⟩

/-- The start of a loop, after other deeds of the same turn. -/
def enter (now : Nat) (claims : Claims) (deeds : List Deed) (handle : String) : Turn :=
  match claims.claim handle with
  | .error fault => finish job claims deeds (.error fault)
  | .ok claimed => ⟨deeds, claimed, .waiting (now + s.pause) (s.policy.start handle)⟩

/-- The end of a loop. -/
def leave (claims : Claims) (handle : String) (result : Except SolveFault Outcome) : Turn :=
  finish job (claims.release handle) [] result

/-- A call, and the wait for its answer. -/
def ask (now : Nat) (f : Setting) (call : Call)
    (stage : Nat → Except ServiceFault Json → Stage) : Turn :=
  let reply := f.reply call
  ⟨[.called call reply], f.claims, stage (now + reply.delay) reply.answer⟩

def turn (now : Nat) (f : Setting) : Stage → Turn
  | .before =>
    match job.errand with
    | .solve package request | .submit package request =>
      ask now f (.submit package request) fun due answer => .submitting due package answer
    | .poll handle => enter s job now f.claims [] handle
    | .look handle =>
      let flag := f.claims.contains handle
      ⟨[.looked handle flag, .ended (.ok (.polling flag))], f.claims,
        .closed (.ok (.polling flag))⟩
  | .submitting _ package answer =>
    match s.afterSubmit package answer with
    | .error fault => finish job f.claims [] (.error fault)
    | .ok handle =>
      if job.errand.polls then
        enter s job now f.claims (if job.errand.isTold then [.told .initiated] else []) handle
      else ⟨[.ended (.ok (.handle handle))], f.claims, .closed (.ok (.handle handle))⟩
  | .waiting _ a =>
    if isStopped job now then leave job f.claims a.handle (.ok .cancelled)
    else ask now f (.check a.handle s.adaptor) fun due answer => .checking due a answer
  | .checking _ a answer =>
    if isStopped job now then leave job f.claims a.handle (.ok .cancelled)
    else
      match s.afterCheck a answer with
      | .ended result => leave job f.claims a.handle result
      | .wait b => ⟨[.told (.stillSolving s.policy)], f.claims, .waiting (now + s.pause) b⟩
  | .closed result => ⟨[], f.claims, .closed result⟩

end Run

/-- How many turns a stage is away from its end at most. -/
def Stage.rank (s : TimedSolver) : Stage → Nat
  | .before => 2 * s.policy.budget.toNat + 4
  | .submitting .. => 2 * s.policy.budget.toNat + 3
  | .waiting _ a => 2 * a.left + 2
  | .checking _ a _ => 2 * a.left + 1
  | .closed _ => 0

namespace Run

variable (s : TimedSolver) (job : Appointment)

theorem rank_finish (claims : Claims) (deeds : List Deed) (result : Except SolveFault Outcome) :
    (finish job claims deeds result).stage.rank s = 0 := rfl

theorem rank_enter (now : Nat) (claims : Claims) (deeds : List Deed) (handle : String) :
    (enter s job now claims deeds handle).stage.rank s ≤ 2 * s.policy.budget.toNat + 2 := by
  unfold enter
  split
  · simp [rank_finish]
  · simp [Stage.rank, PollPolicy.start, Attempt.left]

theorem rank_turn (now : Nat) (f : Setting) (r : Run) {t : Nat} (h : r.due = some t) :
    (turn s r.job now f r.stage).stage.rank s < r.stage.rank s := by
  obtain ⟨job, stage⟩ := r
  cases stage with
  | before =>
    unfold turn
    dsimp only
    split
    · simp [ask, Stage.rank]
    · simp [ask, Stage.rank]
    · exact Nat.lt_of_le_of_lt (rank_enter ..) (by simp [Stage.rank])
    · simp [Stage.rank]
  | submitting due package answer =>
    unfold turn
    dsimp only
    split
    · exact Nat.lt_of_le_of_lt (Nat.le_of_eq (rank_finish ..)) (by simp [Stage.rank])
    · split
      · exact Nat.lt_of_le_of_lt (rank_enter ..) (by simp [Stage.rank])
      · simp [Stage.rank]
  | waiting due a =>
    unfold turn
    dsimp only
    split
    · exact Nat.lt_of_le_of_lt (Nat.le_of_eq (rank_finish ..)) (by simp [Stage.rank])
    · simp [ask, Stage.rank]
  | checking due a answer =>
    unfold turn
    dsimp only
    split
    · exact Nat.lt_of_le_of_lt (Nat.le_of_eq (rank_finish ..)) (by simp [Stage.rank])
    · split
      · exact Nat.lt_of_le_of_lt (Nat.le_of_eq (rank_finish ..)) (by simp [Stage.rank])
      next hb =>
        have := Solver.left_lt_of_afterCheck hb
        simp only [Stage.rank]
        omega
  | closed result => simp [due] at h

end Run

end PlanCourier

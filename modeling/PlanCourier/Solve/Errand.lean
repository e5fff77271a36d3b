import PlanCourier.Fault
import PlanCourier.Solve.Poll
import PlanCourier.Solve.Request
import PlanCourier.Solve.View
import PlanCourier.Url

/-!
# Errands

An errand is one piece of work with a solver: to submit a request, to poll a task until it is over,
or both. This module holds its single moves, each of them a function of what the service answered:
what a submission leads to, what a check leads to, and what the user is told. Who waits, who asks
and in which order is decided elsewhere.

A task is polled by at most one loop at a time: a loop claims the handle before it starts and gives
it back when it ends.

Main statements:

- `left_lt_of_afterCheck`: a loop that goes on has less of its budget left;
- `claim_eq_ok`: a handle can be claimed just when no loop holds it.
-/

namespace PlanCourier

/-- A solver as a loop knows it. -/
structure Solver where
  /-- The address of the service. -/
  base : String
  /-- The name of the client that is sent with every check. -/
  adaptor : String
  policy : PollPolicy
  deriving DecidableEq, Repr

/-- The name of the client unless another one is given. -/
def Solver.defaultAdaptor : String := "planning_editor_adaptor"

/-- What the user is told or shown. -/
inductive Notice where
  | success (message : String)
  | error (message : String)
  | info (message : String)
  | view (view : View)
  deriving DecidableEq, Repr

namespace Notice

/-- That the service took the request. -/
def initiated : Notice := .success "Task initiated!"

/-- That the task is still running. -/
def stillSolving (p : PollPolicy) : Notice :=
  .info ("Solving in progress, will check again in " ++ p.intervalText)

def ending : Outcome → Notice
  | .succeeded _ => .success "Plan is ready"
  | .failed _ => .error "Planning failed."
  | .timedOut attempts =>
    .error ("Timed out waiting for a plan after " ++ Text.naturalText attempts.toNat ++
      " status checks")
  | .cancelled => .info "Solve cancelled"

/-- What the user is told and shown at the end of a solve. -/
def closing : Except SolveFault Outcome → List Notice
  | .ok outcome => ending outcome :: (View.ofOutcome outcome).map .view
  | .error fault => [.error fault.message]

end Notice

/-- The handles of the loops that are running. -/
abbrev Claims := List String

namespace Claims

def claim (held : Claims) (handle : String) : Except SolveFault Claims :=
  if held.contains handle then .error (.alreadyPolling handle) else .ok (handle :: held)

def release (held : Claims) (handle : String) : Claims := held.filter (· != handle)

theorem claim_eq_ok {held after : Claims} {handle : String} :
    claim held handle = .ok after ↔ handle ∉ held ∧ after = handle :: held := by
  unfold claim
  split <;> simp_all [eq_comm]

theorem mem_release {held : Claims} {handle other : String} :
    other ∈ release held handle ↔ other ∈ held ∧ other ≠ handle := by
  simp [release]

end Claims

namespace Solver

/-- The handle in an answer to a submission: a text that is not empty under `result`. -/
def handleIn (response : Json) : Option String :=
  match response.get? "result" with
  | some (.text handle) => if handle.isEmpty then none else some handle
  | _ => none

def afterSubmit (s : Solver) (package : String) : Except ServiceFault Json →
    Except SolveFault String
  | .error cause => .error (.submission cause)
  | .ok response =>
    match handleIn response with
    | some handle => .ok handle
    | none => .error (.noHandle (Url.solve s.base package))

/-- What a loop does next. -/
inductive Next where
  /-- Tell the user that it goes on, wait, and check again. -/
  | wait (attempt : Attempt)
  | ended (result : Except SolveFault Outcome)

def afterCheck (s : Solver) (a : Attempt) : Except ServiceFault Json → Next
  | .error cause => .ended (.error (.check (Url.poll s.base a.handle) cause))
  | .ok response =>
    match PollPolicy.proceed a (Answer.ofJson response) with
    | .again b => .wait b
    | .finished outcome => .ended (.ok outcome)

theorem left_lt_of_afterCheck {s : Solver} {a b : Attempt} {answer : Except ServiceFault Json}
    (h : s.afterCheck a answer = .wait b) : b.left < a.left := by
  unfold afterCheck at h
  split at h
  next => simp at h
  next =>
    split at h
    next hp =>
      obtain rfl := Next.wait.inj h
      exact PollPolicy.left_lt_of_proceed hp
    next => simp at h

end Solver

/-- A piece of work with a solver. -/
inductive Errand where
  /-- To submit a request and poll its task, and to tell the user. -/
  | solve (package : String) (request : Request)
  /-- To submit a request and no more. -/
  | submit (package : String) (request : Request)
  /-- To poll a task that was submitted before. -/
  | poll (handle : String)
  /-- To look whether a loop is polling a task. -/
  | look (handle : String)
  deriving DecidableEq, Repr

namespace Errand

/-- Whether the user is told how the errand begins and ends. -/
def isTold : Errand → Bool
  | .solve .. => true
  | _ => false

/-- Whether a task that was submitted is polled as well. -/
def polls : Errand → Bool
  | .submit .. => false
  | _ => true

end Errand

/-- What an errand brings back. -/
inductive Delivery where
  | outcome (outcome : Outcome)
  | handle (handle : String)
  | polling (flag : Bool)
  deriving DecidableEq, Repr

end PlanCourier

import PlanCourier.Solve.Plan

/-!
# What a status check answers, and how a solve ends

The service answers a status check with a record whose `status` tells how far the task is.
`Answer.ofJson` interprets it: plans, a failure with its diagnostic data, or nothing yet.

Main statement: `ofJson_pending`, any status but `ok` and `error`, or none, means that the task is
still running.
-/

namespace PlanCourier

/-- Why the service could not solve a task. -/
structure Failure where
  /-- The planner was stopped because it ran out of time. -/
  killed : Bool
  /-- The error that the service names, if it names one. -/
  error : Option String
  /-- All that the service says about the failure. -/
  payload : Json
  deriving DecidableEq, Repr

namespace Failure

/-- Whether a flag counts as set: null, false and the empty text do not. -/
def isSet : Json → Bool
  | .null => false
  | .bool b => b
  | .text s => !s.isEmpty
  | _ => true

/-- A text as it is, and any other value as JSON text. -/
def shown : Json → String
  | .text s => s
  | v => v.compactText

/-- The part of an answer that speaks of the failure: its `result` if that is a record, else the
whole answer. -/
def payloadOf (response : Json) : Json :=
  match response.get? "result" with
  | some r => if r.isObject then r else response
  | none => response

def ofJson (response : Json) : Failure :=
  let payload := payloadOf response
  ⟨((payload.get? "killed").map isSet).getD false, (payload.get? "error").map shown, payload⟩

def toJson (f : Failure) : Json :=
  .ofMembers [("killed", .bool f.killed), ("error", .ofOption .text f.error),
    ("payload", f.payload)]

end Failure

/-- What a status check says about a task. -/
inductive Answer where
  | ok (plans : List Plan)
  | error (failure : Failure)
  | pending
  deriving DecidableEq, Repr

namespace Answer

/-- The plans of an answer: the entries of `plans`, or else the one plan under `result`. -/
def plansOf (response : Json) : List Plan :=
  match (response.get? "plans").bind Json.asList? with
  | some entries => entries.map Plan.ofJson
  | none =>
    match response.get? "result" with
    | some r => if (r.get? "plan").isSome then [Plan.ofJson response] else []
    | none => []

/-- The interpretation of an answer by its `status`. -/
def ofJson (response : Json) : Answer :=
  match (response.get? "status").bind Json.asText? with
  | some "ok" => .ok (plansOf response)
  | some "error" => .error (Failure.ofJson response)
  | _ => .pending

def isTerminal : Answer → Bool
  | .pending => false
  | _ => true

theorem ofJson_pending {response : Json}
    (ho : (response.get? "status").bind Json.asText? ≠ some "ok")
    (he : (response.get? "status").bind Json.asText? ≠ some "error") :
    ofJson response = .pending := by
  unfold ofJson
  split <;> simp_all

end Answer

/-- How a solve ended. -/
inductive Outcome where
  | succeeded (plans : List Plan)
  | failed (failure : Failure)
  | timedOut (attempts : UInt32)
  | cancelled
  deriving DecidableEq, Repr

namespace Outcome

def isSuccess : Outcome → Bool
  | .succeeded _ => true
  | _ => false

def toJson : Outcome → Json
  | .succeeded plans =>
    .ofMembers [("outcome", .text "succeeded"), ("plans", .list (plans.map Plan.toJson))]
  | .failed failure => .ofMembers [("outcome", .text "failed"), ("failure", failure.toJson)]
  | .timedOut attempts =>
    .ofMembers [("outcome", .text "timed_out"), ("attempts", .ofNat attempts.toNat)]
  | .cancelled => .ofMembers [("outcome", .text "cancelled")]

end Outcome

end PlanCourier

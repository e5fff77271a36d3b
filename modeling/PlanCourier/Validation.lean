import PlanCourier.Fault
import PlanCourier.Json.Printer

/-!
# Validation runs

A validation run has the service solve benchmark problems, one after another, and validate the
plans itself. Every problem gets a report, whatever the service says or fails to say.

Main statement: `statusOf_valid`, a problem is valid just when the service says `valid`.
-/

namespace PlanCourier

inductive ValidationStatus where
  | valid
  /-- The plan was not accepted, with the word of the validator. -/
  | failed (detail : String)
  /-- The request failed. -/
  | error (detail : String)
  deriving DecidableEq, Repr

structure ValidationReport where
  problem : Int
  status : ValidationStatus
  deriving DecidableEq, Repr

namespace ValidationReport

def isValid (r : ValidationReport) : Bool := r.status == .valid

def summary (r : ValidationReport) : String :=
  match r.status with
  | .valid => "Ok!"
  | .failed s => "Failed: " ++ s
  | .error e => "Error: " ++ e

def statusJson : ValidationStatus → Json
  | .valid => .ofMembers [("status", .text "valid")]
  | .failed s => .ofMembers [("status", .text "failed"), ("detail", .text s)]
  | .error e => .ofMembers [("status", .text "error"), ("detail", .text e)]

def toJson (r : ValidationReport) : Json :=
  .ofMembers [("problem_id", .ofInt r.problem), ("status", statusJson r.status)]

end ValidationReport

namespace Validation

/-- The problems of a run for which none are named, one for each domain. -/
def defaultProblems : List Int := [8, 2352, 1809, 2703, 1116, 4399, 211, 4436, 818, 2487]

/-- What stands under `val_status` of an answer's result. -/
def reported (response : Json) : Option Json :=
  (response.get? "result").bind (·.get? "val_status")

/-- What a service's answer says of a problem. -/
def statusOf (response : Json) : ValidationStatus :=
  match reported response with
  | some (.text "valid") => .valid
  | some (.text s) => .failed s
  | some v => .failed v.compactText
  | none => .failed "missing val_status"

def report (problem : Int) : Except ServiceFault Json → ValidationReport
  | .ok response => ⟨problem, statusOf response⟩
  | .error e => ⟨problem, .error e.message⟩

/-- Validates problems one after another and hands on each report before the next request. -/
def run {m : Type → Type} [Monad m] (ask : Int → m (Except ServiceFault Json))
    (onReport : ValidationReport → m Unit) : List Int → m (List ValidationReport)
  | [] => return []
  | problem :: rest => do
    let r := report problem (← ask problem)
    onReport r
    return r :: (← run ask onReport rest)

theorem statusOf_valid {response : Json} :
    statusOf response = .valid ↔ reported response = some (.text "valid") := by
  unfold statusOf
  split <;> simp_all

end Validation

end PlanCourier

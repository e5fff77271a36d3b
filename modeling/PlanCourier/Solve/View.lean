import PlanCourier.Solve.Answer

/-!
# What is shown of an outcome

An outcome is shown as views: one for every plan, counted from 1, or the diagnostic of a failure.
`View.text` is a view as plain text, the steps of a plan as a numbered list.

Main statements:

- `length_plans`: there are as many plan views as plans;
- `ofOutcome_cancelled` and `ofOutcome_timedOut`: without a result nothing is shown.
-/

namespace PlanCourier

open PlanCourier.Text

/-- Something to show. -/
inductive View where
  /-- The plan `index` of `total`, with the names of its steps. -/
  | plan (index total : Nat) (steps : List String) (output : Option String)
  | diagnostic (text : String)
  deriving DecidableEq, Repr

namespace View

/-- The views of plans, the first of them being plan `index` of `total`. -/
def plansFrom (index total : Nat) : List Plan → List View
  | [] => []
  | p :: rest => .plan index total p.names p.output :: plansFrom (index + 1) total rest

def plans (ps : List Plan) : List View := plansFrom 1 ps.length ps

/-- What is said of a planner that ran out of time. -/
def plannerTimedOut : String := "Planner Timed Out"

/-- The diagnostic of a failure: that the planner was stopped, else the error the service names,
else all the service says. -/
def diagnosticText (f : Failure) : String :=
  if f.killed then plannerTimedOut
  else match f.error with
    | some e => e
    | none => f.payload.prettyText

def ofOutcome : Outcome → List View
  | .succeeded ps => plans ps
  | .failed f => [.diagnostic (diagnosticText f)]
  | .timedOut _ | .cancelled => []

/-- Steps as numbered lines, the first one with this number. -/
def numbered (number : Nat) : List String → List String
  | [] => []
  | s :: rest => ("  " ++ naturalText number ++ ". " ++ s) :: numbered (number + 1) rest

/-- The lines that show what the planner printed, if that is more than white space. -/
def outputLines : Option String → List String
  | none => []
  | some o => if isAllBlank o then [] else ["", "Planner output:", trimmedEnd o]

def text : View → String
  | .plan index total steps output =>
    let heading := "Plan " ++ naturalText index ++ "/" ++ naturalText total ++ " (" ++
      naturalText steps.length ++ " steps)"
    "\n".intercalate (heading :: (numbered 1 steps ++ outputLines output))
  | .diagnostic t => t

def toJson : View → Json
  | .plan index total steps output =>
    .ofMembers [("kind", .text "plan"), ("index", .ofNat index), ("total", .ofNat total),
      ("steps", .list (steps.map .text)), ("output", .ofOption .text output)]
  | .diagnostic t => .ofMembers [("kind", .text "diagnostic"), ("text", .text t)]

theorem length_plansFrom (i n : Nat) (ps : List Plan) : (plansFrom i n ps).length = ps.length := by
  induction ps generalizing i with
  | nil => rfl
  | cons p rest ih => simp [plansFrom, ih]

@[simp] theorem length_plans (ps : List Plan) : (plans ps).length = ps.length :=
  length_plansFrom _ _ _

@[simp] theorem ofOutcome_timedOut (n : UInt32) : ofOutcome (.timedOut n) = [] := rfl

@[simp] theorem ofOutcome_cancelled : ofOutcome .cancelled = [] := rfl

end View

end PlanCourier

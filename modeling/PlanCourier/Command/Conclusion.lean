import PlanCourier.Command.Reference
import PlanCourier.Config.Layers
import PlanCourier.Host
import PlanCourier.Report.Basic

/-!
# How a command ends

A command ends with a report, with a fault, or with both: a report on what did not go well is
followed by the fault. The conclusion is printed as text, or as JSON on the output alone.

Main statement: `exitCode_eq_zero`, a run is a success just when there is no fault.
-/

namespace PlanCourier

/-- Why a command does not do what it is told. -/
inductive CommandFault where
  | config (fault : LoadFault)
  | reference (fault : ProblemReference.Fault)
  /-- The problems of a domain cannot be listed. -/
  | unlisted (domain : Int) (cause : ServiceFault)
  | noProblem (reference : ProblemReference)
  /-- Of the addresses of domain and problem only one is given, or none. -/
  | halfHosted
  | document (fault : DocumentFault)
  | package (fault : SolveFault)
  /-- The solve came to no outcome. -/
  | noOutcome (cause : SolveFault)
  /-- The outcome of the solve is no success. -/
  | unsolved (report : SolveReport)
  | service (fault : ServiceFault)
  | noCollection (wanted : String)
  | badUrl (url : String)
  | unsaved (cause : SettingsFault)
  | invalid (tally : ValidationTally)

namespace CommandFault

def message : CommandFault → String
  | .config fault => fault.message
  | .reference fault => fault.message
  | .unlisted domain _ => "Failed to list problems of domain " ++ Text.integerText domain
  | .noProblem r => "No problem '" ++ r.problem ++ "' in domain " ++ Text.integerText r.domain
  | .halfHosted => "--urls needs both --domain and --problem"
  | .document fault => fault.message
  | .package fault => fault.message
  | .noOutcome _ => "Solve failed"
  | .unsolved report => report.text
  | .service fault => fault.message
  | .noCollection wanted => "No collection named '" ++ wanted ++ "'"
  | .badUrl url => "Base URL must start with http:// or https://, got '" ++ url ++ "'"
  | .unsaved _ => "Failed to save settings"
  | .invalid tally =>
    Text.naturalText (tally.total - tally.valid) ++ " of " ++ Text.naturalText tally.total ++
      " problems did not validate"

/-- The wordings of the faults that this one arose from, outermost first. -/
def causes : CommandFault → List String
  | .reference fault => fault.causes
  | .unlisted _ cause => [cause.message]
  | .package fault => fault.causes
  | .noOutcome cause => cause.message :: cause.causes
  | .unsaved cause => [cause.message]
  | _ => []

def toJson (f : CommandFault) : Json :=
  .ofMembers [("error", .text f.message), ("causes", .list (f.causes.map .text))]

def textLines (f : CommandFault) : List String :=
  ("Error: " ++ f.message) :: f.causes.map ("  caused by: " ++ ·)

end CommandFault

/-- How a command ends. -/
structure Conclusion where
  report : Option Report
  fault : Option CommandFault

namespace Conclusion

def reported (r : Report) : Conclusion := ⟨some r, none⟩

def failed (f : CommandFault) : Conclusion := ⟨none, some f⟩

/-- The conclusion of a command that makes a report or fails. -/
def of (r : Except CommandFault Report) : Conclusion :=
  match r with
  | .ok r => reported r
  | .error f => failed f

/-- The code that the run exits with. -/
def exitCode (c : Conclusion) : UInt32 := if c.fault.isSome then 1 else 0

def lines (json : Bool) (c : Conclusion) : List String :=
  (c.report.map fun r => if json then r.toJson.prettyText else r.text).toList ++
    (if json then (c.fault.map fun f => f.toJson.compactText).toList else [])

def messages (json : Bool) (c : Conclusion) : List String :=
  match c.fault with
  | some f => if json then [] else f.textLines
  | none => []

variable {m : Type → Type} [Monad m]

def writeAll (write : String → m Unit) : List String → m Unit
  | [] => return ()
  | line :: rest => do
    write line
    writeAll write rest

/-- Prints the conclusion and gives the code to exit with. -/
def print (h : Host m) (json : Bool) (c : Conclusion) : m UInt32 := do
  writeAll h.out (c.lines json)
  writeAll h.err (c.messages json)
  return c.exitCode

theorem exitCode_eq_zero {c : Conclusion} : c.exitCode = 0 ↔ c.fault = none := by
  cases h : c.fault <;> simp [exitCode, h]

end Conclusion

end PlanCourier

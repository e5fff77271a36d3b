import PlanCourier.Moment
import PlanCourier.Report.Overview
import PlanCourier.Solve.View
import PlanCourier.Real.Layout

/-!
# Reports

What a run of the program reports in the end, either as text for people or as one record.

Main statement: `ValidationTally.valid_le_total`, no more problems are valid than there are reports.
-/

namespace PlanCourier

open PlanCourier.Text

/-- The report on a solve. -/
structure SolveReport where
  package : String
  baseUrl : String
  outcome : Outcome
  /-- What was shown of the outcome, where that was kept for the report. -/
  views : List View
  started : Moment
  finished : Moment
  deriving DecidableEq, Repr

namespace SolveReport

/-- Milliseconds as the number of seconds nearest to them. -/
def seconds (ms : Int) : Real.Binary64 :=
  { Real.Binary64.ofQuotient ms.natAbs 1000 with negative := ms < 0 }

/-- The time that the solve took, in seconds with one place. -/
def elapsed (r : SolveReport) : String :=
  String.ofList (Real.tenths (seconds (r.finished.ms - r.started.ms)))

def text (r : SolveReport) : String :=
  match r.outcome with
  | .succeeded plans =>
    naturalText plans.length ++ " plan(s) from " ++ r.package ++ " in " ++ r.elapsed ++ "s"
  | .failed _ => r.package ++ " reported a planning error"
  | .timedOut attempts =>
    "No result from " ++ r.package ++ " after " ++ naturalText attempts.toNat ++ " status checks"
  | .cancelled => "Solve cancelled"

def outcomeMembers (o : Outcome) : List (String × Json) :=
  match o.toJson with
  | .object ms => ms
  | _ => []

def toJson (r : SolveReport) : Json :=
  .ofMembers (outcomeMembers r.outcome ++
    [("package", .text r.package), ("base_url", .text r.baseUrl),
      ("views", .list (r.views.map View.toJson)), ("started_at", .text r.started.text),
      ("finished_at", .text r.finished.text)])

end SolveReport

structure ValidationTally where
  reports : List ValidationReport
  deriving DecidableEq, Repr

namespace ValidationTally

def valid (t : ValidationTally) : Nat := (t.reports.filter (·.isValid)).length

def total (t : ValidationTally) : Nat := t.reports.length

theorem valid_le_total (t : ValidationTally) : t.valid ≤ t.total := List.length_filter_le _ _

end ValidationTally

inductive Report where
  | packages (baseUrl : String) (packages : List Package)
  | parameters (package : String) (parameters : List Parameter)
  | collections (collections : List Collection)
  | domains (domains : List DomainEntry)
  | problems (domain : Int) (problems : List ProblemEntry)
  | validation (tally : ValidationTally)
  /-- The base URL, the file of the settings, and whether it was saved there. -/
  | settings (baseUrl path : String) (saved : Bool)
  | solve (report : SolveReport)

namespace Report

def text : Report → String
  | .packages baseUrl [] => "No packages offered by " ++ baseUrl ++ "."
  | .packages baseUrl ps =>
    naturalText ps.length ++ " package(s) at " ++ baseUrl ++ ":\n" ++ (Overview.packages ps).render
  | .parameters package [] => package ++ " takes no solve parameters."
  | .parameters package ps =>
    "Solve parameters of " ++ package ++ ":\n" ++ (Overview.parameters ps).render
  | .collections [] => "No collections found."
  | .collections cs => (Overview.collections cs).render
  | .domains [] => "No domains found."
  | .domains ds => (Overview.domains ds).render
  | .problems domain [] => "Domain " ++ integerText domain ++ " has no problems."
  | .problems _ ps => (Overview.problems ps).render
  | .validation t =>
    (Overview.validation t.reports).render ++ "\n" ++ naturalText t.valid ++ "/" ++
      naturalText t.total ++ " problems validated"
  | .settings baseUrl path saved =>
    (if saved then "Saved" else "Using") ++ " base URL: " ++ baseUrl ++ "\nSettings file: " ++ path
  | .solve r => r.text

def toJson : Report → Json
  | .packages baseUrl ps =>
    .ofMembers [("base_url", .text baseUrl), ("packages", .list (ps.map Package.toJson))]
  | .parameters package ps =>
    .ofMembers [("package", .text package), ("parameters", .list (ps.map Parameter.toJson))]
  | .collections cs =>
    .ofMembers [("listing", .text "collections"), ("collections", .list (cs.map Collection.toJson))]
  | .domains ds =>
    .ofMembers [("listing", .text "domains"), ("domains", .list (ds.map DomainEntry.toJson))]
  | .problems domain ps =>
    .ofMembers [("listing", .text "problems"), ("domain_id", .ofInt domain),
      ("problems", .list (ps.map ProblemEntry.toJson))]
  | .validation t =>
    .ofMembers [("reports", .list (t.reports.map ValidationReport.toJson)),
      ("valid", .ofNat t.valid), ("total", .ofNat t.total)]
  | .settings baseUrl path saved =>
    .ofMembers [("base_url", .text baseUrl), ("settings_path", .text path), ("saved", .bool saved)]
  | .solve r => r.toJson

end Report

end PlanCourier

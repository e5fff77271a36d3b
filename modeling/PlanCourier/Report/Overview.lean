import PlanCourier.Collection.Record
import PlanCourier.Package.Manifest
import PlanCourier.Text.Table
import PlanCourier.Validation

/-!
# Overviews

The tables in which packages, parameters, records of collections and validation reports are shown.

Main statement: `length_shortened`, a description in a table has no more characters than the limit.
-/

namespace PlanCourier.Overview

open PlanCourier.Text

/-- How many characters of a description are shown. -/
def limit : Nat := 60

/-- A text of at most `limit` characters; a longer one ends in dots. -/
def shortened (s : String) : String :=
  if s.length ≤ limit then s else String.ofList (s.toList.take (limit - 3) ++ ['.', '.', '.'])

/-- What stands for nothing. -/
def dash : String := "-"

/-- An id, if there is one. -/
def idText : Option Int → String
  | some i => integerText i
  | none => dash

def packages (ps : List Package) : Table :=
  ⟨["Package", "Description", "Parameters"], ps.map fun p =>
    [p.name, shortened (p.description.getD dash),
      naturalText ((p.solveService?.map fun s => s.args.length).getD 0)]⟩

def parameters (ps : List Parameter) : Table :=
  ⟨["Parameter", "Type", "Default", "Choices", "Description"], ps.map fun p =>
    [p.name, p.kind, p.defaultText.getD dash,
      if p.choices.isEmpty then dash else ", ".intercalate p.choiceValues,
      p.description.getD ""]⟩

def collections (cs : List Collection) : Table :=
  ⟨["ID", "Collection", "Domains", "Description"], cs.map fun c =>
    [idText c.id, c.name, naturalText c.domainIds.length, shortened c.description]⟩

def domains (ds : List DomainEntry) : Table :=
  ⟨["ID", "Domain", "Description"], ds.map fun d =>
    [integerText d.id, d.name, shortened d.description]⟩

def problems (ps : List ProblemEntry) : Table :=
  ⟨["ID", "Problem", "Lower bound", "Upper bound"], ps.map fun p =>
    [idText p.id, p.name, p.lowerLabel, p.upperLabel]⟩

def validation (rs : List ValidationReport) : Table :=
  ⟨["Problem", "Result"], rs.map fun r => [integerText r.problem, r.summary]⟩

theorem length_shortened (s : String) : (shortened s).length ≤ limit := by
  unfold shortened
  split
  · assumption
  next h =>
    have hl : limit = 60 := rfl
    simp only [String.length_ofList, List.length_append, List.length_take, List.length_cons,
      List.length_nil]
    omega

end PlanCourier.Overview

import PlanCourier.Json.Record
import PlanCourier.Text.Blank

/-!
# Plans

A plan is a list of named steps. A service delivers it in one of several forms: a list of steps, a
record with such a list under `plan`, or a text with a step on each line. `Plan.ofJson` reads all
of them, and makes anything else a plan of one step that shows it, so that nothing is dropped.

Main statements:

- `length_ofJson_list`: a list gives one step for each item;
- `ofJson_other`: a value of no known form gives one step, its own text.
-/

namespace PlanCourier

open PlanCourier.Text

/-- A step of a plan: its name, and the action record that the service gave with it, if any. -/
structure Step where
  name : String
  action : Option Json
  deriving DecidableEq, Repr

structure Plan where
  steps : List Step
  /-- Whether the service gave records of actions and not only names. -/
  full : Bool
  /-- What the planner printed, if the service passed it on. -/
  output : Option String
  deriving DecidableEq, Repr

namespace Step

def named (name : String) : Step := ⟨name, none⟩

/-- The step that one item of a list stands for: a text is its name; of a record the text under
`name` is, and anything else is named by its JSON text. -/
def ofJson (v : Json) : Step :=
  match v with
  | .text name => named name
  | .object _ => ⟨((v.get? "name").bind Json.asText?).getD v.compactText, v.get? "action"⟩
  | v => named v.compactText

def toJson (s : Step) : Json :=
  .ofMembers (("name", .text s.name) :: (s.action.map fun a => ("action", a)).toList)

def decode : Decode Step :=
  Decode.record "PlanStep" 2 fun s =>
    Step.mk <$> s.required 0 "name" Decode.text <*> s.optional 1 "action" Decode.any

end Step

namespace Plan

/-- A plan of steps of which only the names are known. -/
def ofNames (names : List String) : Plan := ⟨names.map Step.named, false, none⟩

/-- The lines of a plan text that show something, without the white space around them. -/
def textSteps (s : String) : List String :=
  (((lines s.toList).map trim).filter (!·.isEmpty)).map String.ofList

/-- The record that holds a plan's steps: what stands under `result` if it has a `plan`, else the
value itself. -/
def holder (v : Json) : Json :=
  match v.get? "result" with
  | some r => if (r.get? "plan").isSome then r else v
  | none => v

/-- The plan that an entry of a service's answer stands for. -/
def ofJson (v : Json) : Plan :=
  match v with
  | .list items => ⟨items.map Step.ofJson, items.any Json.isObject, none⟩
  | .text s => ofNames (textSteps s)
  | .object _ =>
    let record := holder v
    match (record.get? "plan").bind Json.asList? with
    | some items =>
      ⟨items.map Step.ofJson, (record.get? "type").bind Json.asText? == some "full",
        (record.get? "output").bind Json.asText?⟩
    | none => ofNames [v.compactText]
  | v => ofNames [v.compactText]

def names (p : Plan) : List String := p.steps.map (·.name)

def toJson (p : Plan) : Json :=
  .ofMembers (("steps", .list (p.steps.map Step.toJson)) :: ("full", .bool p.full) ::
    (p.output.map fun o => ("output", Json.text o)).toList)

def decode : Decode Plan :=
  Decode.record "Plan" 3 fun s =>
    Plan.mk <$> s.required 0 "steps" (Decode.list Step.decode)
      <*> s.defaulted 1 "full" Decode.bool false
      <*> s.optional 2 "output" Decode.text

theorem length_ofJson_list (items : List Json) :
    (ofJson (.list items)).steps.length = items.length := by
  simp [ofJson]

theorem ofJson_other {v : Json} (ht : v.asText? = none) (hl : v.asList? = none)
    (ho : v.isObject = false) : ofJson v = ofNames [v.compactText] := by
  cases v <;> simp_all [ofJson, Json.asText?, Json.asList?, Json.isObject]

end Plan

end PlanCourier

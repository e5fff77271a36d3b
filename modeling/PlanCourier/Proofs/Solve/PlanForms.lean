import Mathlib.Data.List.Forall2
import PlanCourier.Proofs.Solve.PlanRecord

/-!
# The forms of a plan

A service can deliver the items of a plan in four ways: as a list among its plans, as a list under
`plan` or under `plan` in `result` of a record among its plans, or without plans, under `plan` in
its own `result`. A reading that took the steps from the wrong one of these records would find no
list there and show the record as a step, or find no plan at all; so the forms are described by what
stands under which name, and all of them give the same steps.

Main statements:

- `Step.shows_iff`: the step of an item is the one with its name and its action;
- `Delivers.entries`: an answer in one of the forms has one entry;
- `Plan.ofJson_of_formless`: an entry in none of the forms is one step;
- `plans_of_every_form`: the plans of an answer, whatever form they come in.
-/

namespace PlanCourier

/-! ## The steps of items -/

namespace Step

/-- The step has the name and the action of an item: a text is its own name, a record may have a
text under `name`, and what has no name is called by its JSON text. -/
structure Shows (s : Step) (item : Json) : Prop where
  name_of_text : ∀ n, item = .text n → s.name = n
  name_of_record : ∀ n, item.get? "name" = some (.text n) → s.name = n
  name_of_other : (∀ n, item ≠ .text n) → (∀ n, item.get? "name" ≠ some (.text n)) →
    s.name = item.compactText
  action : s.action = item.get? "action"

theorem name_ofJson_object (ms : List (String × Json)) :
    (ofJson (.object ms)).name =
      (((Json.object ms).get? "name").bind Json.asText?).getD (Json.object ms).compactText := rfl

theorem shows_ofJson (item : Json) : (ofJson item).Shows item where
  name_of_text := by
    rintro n rfl
    rfl
  name_of_record n h := by
    cases item with
    | object ms =>
      rw [name_ofJson_object, h]
      rfl
    -- only a record has something under a name
    | _ => cases h
  name_of_other htext hname := by
    cases item with
    | text n => exact absurd rfl (htext n)
    | object ms =>
      rw [name_ofJson_object]
      cases h : (Json.object ms).get? "name" with
      | none => rfl
      | some v =>
        cases v with
        | text n => exact absurd h (hname n)
        | _ => rfl
    | _ => rfl
  action := action_ofJson item

theorem Shows.unique {s t : Step} {item : Json} (hs : s.Shows item) (ht : t.Shows item) :
    s = t := by
  have hname : s.name = t.name := by
    by_cases htext : ∃ n, item = .text n
    · obtain ⟨n, hn⟩ := htext
      rw [hs.name_of_text n hn, ht.name_of_text n hn]
    · by_cases hrecord : ∃ n, item.get? "name" = some (.text n)
      · obtain ⟨n, hn⟩ := hrecord
        rw [hs.name_of_record n hn, ht.name_of_record n hn]
      · push Not at htext hrecord
        rw [hs.name_of_other htext hrecord, ht.name_of_other htext hrecord]
  have haction : s.action = t.action := hs.action.trans ht.action.symm
  cases s
  cases t
  exact congr (congrArg Step.mk hname) haction

theorem shows_iff {s : Step} {item : Json} : s.Shows item ↔ s = ofJson item :=
  ⟨fun h => h.unique (shows_ofJson item), fun h => h ▸ shows_ofJson item⟩

theorem forall₂_shows_iff {steps : List Step} {items : List Json} :
    List.Forall₂ Shows steps items ↔ steps = items.map ofJson := by
  have hshows : Shows = fun s item => s = ofJson item := by
    funext s item
    exact propext shows_iff
  rw [hshows, ← List.forall₂_map_right_iff, List.forall₂_eq_eq_eq]

end Step

/-! ## The plan of an entry -/

namespace Plan

variable {entry r v : Json} {items : List Json}

theorem holder_of_nested (hresult : entry.get? "result" = some r)
    (hplan : (r.get? "plan").isSome) : holder entry = r := by
  rw [holder, hresult]
  exact if_pos hplan

theorem holder_of_not_nested (h : ∀ r, entry.get? "result" = some r → r.get? "plan" = none) :
    holder entry = entry := by
  cases hresult : entry.get? "result" with
  | none => rw [holder, hresult]
  | some r => simp [holder, hresult, h r hresult]

theorem isObject_of_holder (h : (holder entry).get? "plan" = some v) : entry.isObject = true := by
  cases entry with
  | object ms => rfl
  | _ => cases h

theorem steps_of_holder (h : (holder entry).get? "plan" = some (.list items)) :
    (ofJson entry).steps = items.map Step.ofJson := by
  have hobject := isObject_of_holder h
  cases entry with
  | object ms =>
    unfold ofJson
    dsimp only
    rw [h]
    rfl
  | _ => cases hobject

theorem ofJson_of_holder (hlist : entry.asList? = none) (htext : entry.asText? = none)
    (h : ((holder entry).get? "plan").bind Json.asList? = none) :
    ofJson entry = ofNames [entry.compactText] := by
  cases entry with
  | object ms =>
    unfold ofJson
    dsimp only
    rw [h]
  | _ => exact ofJson_other htext hlist rfl

/-- The entry has none of the forms of a plan: it is no list and no text, and it has no list under
`plan`, nor has its `result`. -/
structure Formless (entry : Json) : Prop where
  list : entry.asList? = none
  text : entry.asText? = none
  plan : (entry.get? "plan").bind Json.asList? = none
  result : ∀ r, entry.get? "result" = some r → (r.get? "plan").bind Json.asList? = none

theorem ofJson_of_formless (h : Formless entry) : ofJson entry = ofNames [entry.compactText] := by
  refine ofJson_of_holder h.list h.text ?_
  unfold holder
  split
  next r hresult =>
    split
    · exact h.result r hresult
    · exact h.plan
  next => exact h.plan

end Plan

/-! ## The entries of an answer -/

/-- The answer brings the items as the steps of its only plan. Of each record only the named fields
count; it may have any others. -/
inductive Delivers (items : List Json) (response : Json) : Prop where
  /-- As a list among the plans. -/
  | listed (hplans : response.get? "plans" = some (.list [.list items]))
  /-- In a record among the plans, if there is no plan in its `result`. -/
  | recorded (entry : Json) (hplans : response.get? "plans" = some (.list [entry]))
      (hresult : ∀ r, entry.get? "result" = some r → r.get? "plan" = none)
      (hplan : entry.get? "plan" = some (.list items))
  /-- In the `result` of a record among the plans. -/
  | nested (entry r : Json) (hplans : response.get? "plans" = some (.list [entry]))
      (hresult : entry.get? "result" = some r) (hplan : r.get? "plan" = some (.list items))
  /-- In the `result` of the answer, if it has no list of plans. -/
  | alone (r : Json) (hplans : (response.get? "plans").bind Json.asList? = none)
      (hresult : response.get? "result" = some r) (hplan : r.get? "plan" = some (.list items))

namespace Answer

variable {response : Json}

theorem ofJson_ok (h : response.get? "status" = some (.text "ok")) :
    ofJson response = .ok ((entries response).map Plan.ofJson) := by
  rw [← plansOf_eq, ofJson, h]
  rfl

theorem entries_of_plans {es : List Json} (h : response.get? "plans" = some (.list es)) :
    entries response = es := by
  rw [entries, h]
  rfl

theorem entries_of_result {r v : Json} (hplans : (response.get? "plans").bind Json.asList? = none)
    (hresult : response.get? "result" = some r) (hplan : r.get? "plan" = some v) :
    entries response = [response] := by
  rw [entries, hplans]
  simp [hresult, hplan]

end Answer

theorem Delivers.entries {items : List Json} {response : Json} (h : Delivers items response) :
    ∃ entry, Answer.entries response = [entry] ∧
      (Plan.ofJson entry).steps = items.map Step.ofJson := by
  cases h with
  | listed hplans => exact ⟨.list items, Answer.entries_of_plans hplans, rfl⟩
  | recorded entry hplans hresult hplan =>
    refine ⟨entry, Answer.entries_of_plans hplans, Plan.steps_of_holder ?_⟩
    rw [Plan.holder_of_not_nested hresult, hplan]
  | nested entry r hplans hresult hplan =>
    refine ⟨entry, Answer.entries_of_plans hplans, Plan.steps_of_holder ?_⟩
    rw [Plan.holder_of_nested hresult (by rw [hplan]; rfl), hplan]
  | alone r hplans hresult hplan =>
    refine ⟨response, Answer.entries_of_result hplans hresult hplan, Plan.steps_of_holder ?_⟩
    rw [Plan.holder_of_nested hresult (by rw [hplan]; rfl), hplan]

/-- The same items give the same steps in every form, one for each item. And where there is a list
of plans, each entry becomes a plan by itself, in its place; one that has none of the forms of a
plan becomes a plan of one step. -/
theorem plans_of_every_form :
    (∀ items : List Json, ∃ steps, List.Forall₂ Step.Shows steps items ∧
      ∀ response : Json, response.get? "status" = some (.text "ok") → Delivers items response →
        ∃ p, Answer.ofJson response = .ok [p] ∧ p.steps = steps) ∧
    ∀ (response : Json) (entries : List Json), response.get? "status" = some (.text "ok") →
      response.get? "plans" = some (.list entries) →
        ∃ plans, Answer.ofJson response = .ok plans ∧ plans.length = entries.length ∧
          (∀ i : Nat, plans[i]? = entries[i]?.map Plan.ofJson) ∧
          ∀ entry ∈ entries, Plan.Formless entry →
            (Plan.ofJson entry).steps = [Step.named entry.compactText] := by
  constructor
  · intro items
    refine ⟨items.map Step.ofJson, Step.forall₂_shows_iff.2 rfl, ?_⟩
    intro response hok hdelivers
    obtain ⟨entry, hentries, hsteps⟩ := hdelivers.entries
    refine ⟨Plan.ofJson entry, ?_, hsteps⟩
    rw [Answer.ofJson_ok hok, hentries]
    rfl
  · intro response entries hok hplans
    refine ⟨entries.map Plan.ofJson, ?_, List.length_map _, fun i => List.getElem?_map, ?_⟩
    · rw [Answer.ofJson_ok hok, Answer.entries_of_plans hplans]
    · intro entry _ hformless
      rw [Plan.ofJson_of_formless hformless]
      rfl

namespace Sample

/-- Items of each kind: a text, a record with a name, a record whose name is no text, and null. -/
def journey : List Json :=
  [.text "board", .object [("action", .list []), ("name", .text "sail")],
    .object [("name", .bool true)], .null]

/-- The answer with these fields besides its status. -/
def okAnswer (fields : List (String × Json)) : Json := .object (fields ++ [("status", .text "ok")])

/-- The items in a record with another field. -/
def journeyRecord : Json := .object [("cost", .text "low"), ("plan", .list journey)]

/-- The items in each of the four forms. -/
def journeyAnswers : List Json :=
  [okAnswer [("plans", .list [.list journey])],
    okAnswer [("plans", .list [journeyRecord])],
    okAnswer [("plans", .list [.object [("rank", .null), ("result", journeyRecord)]])],
    okAnswer [("plans", .null), ("result", journeyRecord)]]

theorem delivers_of_mem_journeyAnswers {response : Json} (h : response ∈ journeyAnswers) :
    response.get? "status" = some (.text "ok") ∧ Delivers journey response := by
  simp only [journeyAnswers, List.mem_cons, List.not_mem_nil, or_false] at h
  obtain rfl | rfl | rfl | rfl := h
  · exact ⟨rfl, .listed rfl⟩
  · exact ⟨rfl, .recorded journeyRecord rfl (fun _ h => nomatch h) rfl⟩
  · exact ⟨rfl, .nested _ journeyRecord rfl rfl rfl⟩
  · exact ⟨rfl, .alone journeyRecord rfl rfl rfl⟩

end Sample

/-- The steps are the same four in every form. -/
theorem journey_in_every_form :
    ∀ response ∈ Sample.journeyAnswers, ∃ p, Answer.ofJson response = .ok [p] ∧
      p.steps = [⟨"board", none⟩, ⟨"sail", some (.list [])⟩,
        ⟨"\x7b\"name\":true\x7d", none⟩, ⟨"null", none⟩] := by
  obtain ⟨steps, hshows, hall⟩ := plans_of_every_form.1 Sample.journey
  obtain rfl := Step.forall₂_shows_iff.1 hshows
  intro response hmem
  obtain ⟨hok, hdelivers⟩ := Sample.delivers_of_mem_journeyAnswers hmem
  obtain ⟨p, hp, hsteps⟩ := hall response hok hdelivers
  exact ⟨p, hp, hsteps⟩

end PlanCourier

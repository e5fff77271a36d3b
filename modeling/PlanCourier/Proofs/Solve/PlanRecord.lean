import PlanCourier.Proofs.Json.Record
import PlanCourier.Solve.Answer

/-!
# Plans that are written and read

A plan is written as a record and can be read from it. All of it comes back but for one thing: an
action that is null is written as null, and null is read as no action. Such an action comes from the
service: a step record with `"action": null` gives a step whose action is null.

Main statements:

- `Plan.decode_toJson`: what the record of a plan is read as;
- `Plan.exists_action_iff`: where the actions of a plan come from;
- `plans_read_back`: the plans of an answer, and which of them come back unchanged.
-/

namespace PlanCourier

namespace Step

/-- The step with an action that is null left out. -/
def withoutNull (s : Step) : Step :=
  { s with action := s.action.filter fun a => decide (a ≠ .null) }

theorem withoutNull_eq_self {s : Step} : s.withoutNull = s ↔ s.action ≠ some .null := by
  obtain ⟨name, action⟩ := s
  cases action with
  | none => simp [withoutNull]
  | some a =>
    by_cases ha : a = .null
    · simp [withoutNull, Option.filter, ha]
    · simp [withoutNull, Option.filter, ha]

theorem decode_toJson (s : Step) : Step.decode s.toJson = .ok s.withoutNull := by
  let fields := ("name", Json.text s.name) :: (s.action.map fun a => ("action", a)).toList
  have hnodup : (fields.map (·.1)).Nodup := by cases h : s.action <;> simp [fields, h]
  have hname : ("name", Json.text s.name) ∈ fields := List.mem_cons_self
  have haction : ∀ v, ("action", v) ∈ fields ↔ s.action.map id = some v := by simp [fields]
  have hany : ∀ a ∈ s.action, Decode.any (id a) = .ok a := fun _ _ => rfl
  refine (Decode.record_ofMembers fields).trans ?_
  rw [Source.required_of_mem hnodup hname (Decode.text_text s.name),
    Source.optional_of_mem_iff hnodup haction hany]
  rfl

theorem action_ofJson (v : Json) : (ofJson v).action = v.get? "action" := by
  cases v <;> rfl

end Step

namespace Plan

/-- The plan with null actions left out. -/
def withoutNulls (p : Plan) : Plan := { p with steps := p.steps.map Step.withoutNull }

theorem withoutNulls_eq_self {p : Plan} :
    p.withoutNulls = p ↔ ∀ s ∈ p.steps, s.action ≠ some .null := by
  obtain ⟨steps, full, output⟩ := p
  simp only [withoutNulls, mk.injEq, and_true, ← Step.withoutNull_eq_self]
  induction steps <;> simp_all

/-- The record of a plan is read as the plan without its null actions. -/
theorem decode_toJson (p : Plan) : Plan.decode p.toJson = .ok p.withoutNulls := by
  let fields := ("steps", Json.list (p.steps.map Step.toJson)) :: ("full", Json.bool p.full) ::
    (p.output.map fun o => ("output", Json.text o)).toList
  have hnodup : (fields.map (·.1)).Nodup := by cases h : p.output <;> simp [fields, h]
  have hsteps : ("steps", Json.list (p.steps.map Step.toJson)) ∈ fields := List.mem_cons_self
  have hfull : ("full", Json.bool p.full) ∈ fields := by simp [fields]
  have houtput : ∀ v, ("output", v) ∈ fields ↔ p.output.map .text = some v := by simp [fields]
  have hitems : Decode.list Step.decode (.list (p.steps.map Step.toJson)) =
      .ok (p.steps.map Step.withoutNull) := Decode.items_map fun s _ => s.decode_toJson
  have hbool : Decode.bool (.bool p.full) = .ok p.full := rfl
  refine (Decode.record_ofMembers fields).trans ?_
  rw [Source.required_of_mem hnodup hsteps hitems, Source.defaulted_of_mem hnodup hfull hbool,
    Source.optional_text hnodup houtput]
  rfl

/-- The items of an entry that become steps with their actions. -/
def stepRecords (entry : Json) : List Json :=
  match entry with
  | .list items => items
  | .object _ => (((holder entry).get? "plan").bind Json.asList?).getD []
  | _ => []

/-- An action of a step is what one of these items has for an action. -/
theorem exists_action_iff (entry a : Json) :
    (∃ s ∈ (ofJson entry).steps, s.action = some a) ↔
      ∃ item ∈ stepRecords entry, item.get? "action" = some a := by
  have hitems : ∀ items : List Json, (∃ s ∈ items.map Step.ofJson, s.action = some a) ↔
      ∃ item ∈ items, item.get? "action" = some a := by
    intro items
    simp only [List.mem_map, exists_exists_and_eq_and, Step.action_ofJson]
  have hnames : ∀ names : List String, ¬ ∃ s ∈ (ofNames names).steps, s.action = some a := by
    rintro names ⟨s, hs, hsome⟩
    obtain ⟨name, -, rfl⟩ := List.mem_map.1 hs
    cases hsome
  cases entry with
  | list items => exact hitems items
  | object ms =>
    unfold ofJson stepRecords
    dsimp only
    cases hplan : ((holder (.object ms)).get? "plan").bind Json.asList? with
    | some items => exact hitems items
    | none => simpa using hnames [(Json.object ms).compactText]
  -- the other entries become names alone, and no step of names has an action
  | text s => simpa [ofJson, stepRecords] using hnames (textSteps s)
  | _ => simpa [ofJson, stepRecords] using hnames _

/-- The plan of an entry comes back just where no step record of the entry has a null action. -/
theorem decode_toJson_ofJson_iff (entry : Json) :
    Plan.decode (ofJson entry).toJson = .ok (ofJson entry) ↔
      ∀ item ∈ stepRecords entry, item.get? "action" ≠ some .null := by
  rw [decode_toJson, Except.ok.injEq, withoutNulls_eq_self]
  have h := not_congr (exists_action_iff entry .null)
  push Not at h
  exact h

end Plan

namespace Answer

/-- The entries of an answer that plans are made of. -/
def entries (response : Json) : List Json :=
  match (response.get? "plans").bind Json.asList? with
  | some entries => entries
  | none =>
    match response.get? "result" with
    | some r => if (r.get? "plan").isSome then [response] else []
    | none => []

theorem plansOf_eq (response : Json) : plansOf response = (entries response).map Plan.ofJson := by
  unfold plansOf entries
  cases (response.get? "plans").bind Json.asList? with
  | some items => rfl
  | none =>
    cases response.get? "result" with
    | none => rfl
    | some r => cases hplan : (r.get? "plan").isSome <;> simp [hplan]

theorem plans_of_ofJson {response : Json} {plans : List Plan} (h : ofJson response = .ok plans) :
    plans = (entries response).map Plan.ofJson := by
  unfold ofJson at h
  split at h
  next =>
    injection h with h
    rw [← h, plansOf_eq]
  next => cases h
  next => cases h

end Answer

/-- The plans of an answer are those of its entries, in their order. The record of each of them is
read as the plan without its null actions; so it is read as the plan itself just where no step
record of the entry has a null action. -/
theorem plans_read_back {response : Json} {plans : List Plan}
    (h : Answer.ofJson response = .ok plans) :
    plans = (Answer.entries response).map Plan.ofJson ∧
    ∀ entry ∈ Answer.entries response,
      Plan.decode (Plan.ofJson entry).toJson = .ok (Plan.ofJson entry).withoutNulls ∧
      (Plan.decode (Plan.ofJson entry).toJson = .ok (Plan.ofJson entry) ↔
        ∀ item ∈ Plan.stepRecords entry, item.get? "action" ≠ some .null) :=
  ⟨Answer.plans_of_ofJson h, fun entry _ =>
    ⟨Plan.decode_toJson _, Plan.decode_toJson_ofJson_iff entry⟩⟩

namespace Sample

/-- An answer with one plan, whose step has this action. -/
def answerWithAction (action : Json) : Json :=
  .object [("plans", .list [.list [.object [("action", action), ("name", .text "a")]]]),
    ("status", .text "ok")]

end Sample

/-- A plan with an action that is a record comes back. -/
theorem plan_with_action_read_back :
    ∃ p, Answer.ofJson (Sample.answerWithAction (.object [])) = .ok [p] ∧
      p.steps = [⟨"a", some (.object [])⟩] ∧ Plan.decode p.toJson = .ok p := by
  have hanswer : Answer.ofJson (Sample.answerWithAction (.object [])) =
    .ok [⟨[⟨"a", some (.object [])⟩], true, none⟩] := rfl
  obtain ⟨-, hentries⟩ := plans_read_back hanswer
  have hback := (hentries _ List.mem_cons_self).2.2 (by decide)
  exact ⟨_, hanswer, rfl, hback⟩

/-- A plan with a null action comes back without it. -/
theorem plan_with_null_action_not_read_back :
    ∃ p, Answer.ofJson (Sample.answerWithAction .null) = .ok [p] ∧
      p.steps = [⟨"a", some .null⟩] ∧
      Plan.decode p.toJson = .ok { p with steps := [⟨"a", none⟩] } ∧
      Plan.decode p.toJson ≠ .ok p := by
  refine ⟨⟨[⟨"a", some .null⟩], true, none⟩, rfl, rfl, ?_, ?_⟩
  · exact Plan.decode_toJson _
  · rw [Plan.decode_toJson]
    decide

end PlanCourier

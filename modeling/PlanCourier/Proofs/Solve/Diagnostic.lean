import PlanCourier.Solve.Errand

/-!
# The diagnostic of a failed solve

What is shown of an answer with the status `error`. The part of it that speaks of the failure may
say that the planner was stopped, it may name an error, and otherwise all of it is shown. An error
that is null is none, yet the word `null` is shown for it, and the data beside it is not.

Main statements:

- `Failure.speaksFor_payloadOf` and `Failure.killed_ofJson`: how an answer is read;
- `Failure.diagnosis_diagnosticText_iff`: when the diagnostic is the right one;
- `diagnostic_of_failed_solve`: what is shown of an answer that ends a solve as failed;
- `null_shown_for_no_error`: what is shown in place of the data.
-/

namespace PlanCourier

namespace Failure

variable {response payload v : Json} {text : String}

/-- The part of an answer that speaks of the failure. -/
inductive SpeaksFor (response : Json) : Json → Prop
  | result {r : Json} (h : response.get? "result" = some r) (hr : r.isObject = true) :
      SpeaksFor response r
  /-- There is no record under `result`. -/
  | whole (h : ∀ r, response.get? "result" = some r → r.isObject = false) :
      SpeaksFor response response

theorem speaksFor_payloadOf (response : Json) : SpeaksFor response (payloadOf response) := by
  cases hresult : response.get? "result" with
  | none =>
    have hwhole : payloadOf response = response := by simp [payloadOf, hresult]
    rw [hwhole]
    exact .whole fun r hr => by simp [hresult] at hr
  | some r =>
    cases hr : r.isObject with
    | true =>
      have hpart : payloadOf response = r := by simp [payloadOf, hresult, hr]
      rw [hpart]
      exact .result hresult hr
    | false =>
      have hwhole : payloadOf response = response := by simp [payloadOf, hresult, hr]
      rw [hwhole]
      refine .whole fun q hq => ?_
      obtain rfl := Option.some.inj (hresult.symm.trans hq)
      exact hr

theorem SpeaksFor.isObject {name : String} (h : SpeaksFor response payload)
    (hfield : response.get? name = some v) : payload.isObject = true := by
  cases h with
  | result _ hr => exact hr
  | whole _ =>
    cases response with
    | object ms => rfl
    | _ => cases hfield

/-- The planner was stopped: there is something under `killed` that is not null, false or empty. -/
def SaysKilled (payload : Json) : Prop :=
  ∃ v, payload.get? "killed" = some v ∧ v ≠ .null ∧ v ≠ .bool false ∧ v ≠ .text ""

theorem isSet_iff : isSet v = true ↔ v ≠ .null ∧ v ≠ .bool false ∧ v ≠ .text "" := by
  cases v <;> simp [isSet]

theorem killed_ofJson : (ofJson response).killed = true ↔ SaysKilled (payloadOf response) := by
  change ((((payloadOf response).get? "killed").map isSet).getD false) = true ↔ _
  unfold SaysKilled
  cases (payloadOf response).get? "killed" with
  | none => simp
  | some v => simpa using isSet_iff

/-- The diagnostic that a user is to see: that the planner was stopped, else the error that is
named, a text as it is and any other value as JSON text, else all that is said of the failure. -/
inductive Diagnosis (payload : Json) : String → Prop
  | stopped (h : SaysKilled payload) : Diagnosis payload "Planner Timed Out"
  | worded {t : String} (hk : ¬ SaysKilled payload) (he : payload.get? "error" = some (.text t)) :
      Diagnosis payload t
  | valued {e : Json} (hk : ¬ SaysKilled payload) (he : payload.get? "error" = some e)
      (hnull : e ≠ .null) (htext : ∀ t, e ≠ .text t) : Diagnosis payload e.compactText
  /-- There is no error, or it is null. -/
  | data (hk : ¬ SaysKilled payload) (he : ∀ e, payload.get? "error" = some e → e = .null) :
      Diagnosis payload payload.prettyText

theorem prettyText_ne_null (h : payload.isObject = true) : payload.prettyText ≠ "null" := by
  intro htext
  have hfirst := congrArg (·.toList.head?) htext
  cases payload with
  | object ms => cases ms <;> simp [Json.prettyText, Json.pretty, Json.prettyAt] at hfirst
  | _ => cases h

/-! ## The text of the diagnostic -/

theorem diagnosticText_of_killed (h : SaysKilled (payloadOf response)) :
    View.diagnosticText (ofJson response) = "Planner Timed Out" :=
  if_pos (killed_ofJson.2 h)

theorem diagnosticText_of_error {e : Json} (hk : ¬ SaysKilled (payloadOf response))
    (he : (payloadOf response).get? "error" = some e) :
    View.diagnosticText (ofJson response) = shown e := by
  have herror : (ofJson response).error = some (shown e) := by
    change ((payloadOf response).get? "error").map shown = _
    rw [he]
    rfl
  rw [View.diagnosticText, if_neg (mt killed_ofJson.1 hk), herror]

theorem diagnosticText_of_no_error (hk : ¬ SaysKilled (payloadOf response))
    (he : (payloadOf response).get? "error" = none) :
    View.diagnosticText (ofJson response) = (payloadOf response).prettyText := by
  have herror : (ofJson response).error = none := by
    change ((payloadOf response).get? "error").map shown = _
    rw [he]
    rfl
  rw [View.diagnosticText, if_neg (mt killed_ofJson.1 hk), herror]
  rfl

/-- With an error that is null, the word `null` is no diagnosis of a record. -/
theorem not_diagnosis_null (hobject : payload.isObject = true) (hk : ¬ SaysKilled payload)
    (he : payload.get? "error" = some .null) : ¬ Diagnosis payload "null" := by
  generalize htext : "null" = text
  intro h
  cases h with
  | stopped h => exact hk h
  | worded _ ht => simp [he] at ht
  | valued _ hv hnull _ => exact hnull (Option.some.inj (hv.symm.trans he))
  | data _ _ => exact prettyText_ne_null hobject htext.symm

/-- The diagnostic of a failure is the right one but where an error is null and the planner was not
stopped. -/
theorem diagnosis_diagnosticText_iff (hobject : (payloadOf response).isObject = true) :
    Diagnosis (payloadOf response) (View.diagnosticText (ofJson response)) ↔
      SaysKilled (payloadOf response) ∨ (payloadOf response).get? "error" ≠ some .null := by
  by_cases hk : SaysKilled (payloadOf response)
  · rw [diagnosticText_of_killed hk]
    exact iff_of_true (.stopped hk) (.inl hk)
  · cases he : (payloadOf response).get? "error" with
    | none =>
      rw [diagnosticText_of_no_error hk he]
      exact iff_of_true (.data hk fun e h => by simp [he] at h) (.inr nofun)
    | some e =>
      rw [diagnosticText_of_error hk he]
      cases e with
      | null => exact iff_of_false (not_diagnosis_null hobject hk he) (by simp [hk])
      | text t => exact iff_of_true (.worded hk he) (.inr (by simp))
      | _ => exact iff_of_true (.valued hk he nofun nofun) (.inr (by simp))

end Failure

/-- What is shown of an answer that says that the solve failed, at any attempt. The loop ends, and
the failure has one view, a diagnostic. Its text is the one that the user is to see, unless the
planner was not stopped and the error is null: then the word `null` is all that is shown. -/
theorem diagnostic_of_failed_solve (s : Solver) (a : Attempt) {response : Json}
    (h : response.get? "status" = some (.text "error")) :
    ∃ payload failure text, Failure.SpeaksFor response payload ∧
      s.afterCheck a (.ok response) = .ended (.ok (.failed failure)) ∧
      View.ofOutcome (.failed failure) = [.diagnostic text] ∧
      (Failure.Diagnosis payload text ↔
        Failure.SaysKilled payload ∨ payload.get? "error" ≠ some .null) ∧
      (¬ Failure.SaysKilled payload → payload.get? "error" = some .null → text = "null") := by
  have hspeaks := Failure.speaksFor_payloadOf response
  have hanswer : Answer.ofJson response = .error (Failure.ofJson response) := by
    rw [Answer.ofJson, h]
    rfl
  refine ⟨Failure.payloadOf response, Failure.ofJson response, _, hspeaks, ?_, rfl,
    Failure.diagnosis_diagnosticText_iff (hspeaks.isObject h),
    fun hk he => Failure.diagnosticText_of_error hk he⟩
  rw [Solver.afterCheck, hanswer]
  rfl

namespace Sample

/-- An answer that names an error of a planner that was stopped. -/
def stopped : Json :=
  .object [("result", .object [("error", .text "out of time"), ("killed", .number (.whole 0))]),
    ("status", .text "error")]

/-- An answer in which null stands for no error. -/
def errorless : Json :=
  .object [("result", .object [("error", .null), ("parse_status", .text "err")]),
    ("status", .text "error")]

end Sample

/-- That the planner was stopped is said before the error that is named. -/
theorem stopped_before_error :
    ∃ failure, Solver.afterCheck ⟨"http://localhost:5001", Solver.defaultAdaptor, .default⟩
        (PollPolicy.default.start "/t42") (.ok Sample.stopped) = .ended (.ok (.failed failure)) ∧
      View.ofOutcome (.failed failure) = [.diagnostic "Planner Timed Out"] := by
  obtain ⟨payload, failure, text, hpart, hended, hview, hright, -⟩ :=
    diagnostic_of_failed_solve ⟨"http://localhost:5001", Solver.defaultAdaptor, .default⟩
      (PollPolicy.default.start "/t42") (show Sample.stopped.get? "status" = _ from rfl)
  have hpayload : payload.get? "killed" = some (.number (.whole 0)) := by
    cases hpart with
    | result h _ => exact (Option.some.inj h) ▸ rfl
    | whole h => exact absurd (h _ rfl) (by decide)
  have hkilled : Failure.SaysKilled payload := ⟨_, hpayload, nofun, nofun, nofun⟩
  refine ⟨failure, hended, ?_⟩
  cases hright.2 (.inl hkilled) with
  | stopped _ => exact hview
  | worded hk _ => exact absurd hkilled hk
  | valued hk _ _ _ => exact absurd hkilled hk
  | data hk _ => exact absurd hkilled hk

/-- Of an answer in which null stands for no error the word `null` is shown, though the data beside
it is to be seen. -/
theorem null_shown_for_no_error :
    ∃ payload failure, Failure.SpeaksFor Sample.errorless payload ∧
      Sample.errorless.get? "status" = some (.text "error") ∧
      Solver.afterCheck ⟨"http://localhost:5001", Solver.defaultAdaptor, .default⟩
        (PollPolicy.default.start "/t42") (.ok Sample.errorless) =
          .ended (.ok (.failed failure)) ∧
      View.ofOutcome (.failed failure) = [.diagnostic "null"] ∧
      ¬ Failure.Diagnosis payload "null" ∧
      Failure.Diagnosis payload
        "\x7b\n  \"error\": null,\n  \"parse_status\": \"err\"\n\x7d" := by
  let payload : Json := .object [("error", .null), ("parse_status", .text "err")]
  have hk : ¬ Failure.SaysKilled payload := by
    rintro ⟨v, hv, -⟩
    cases hv
  have hdata : Failure.Diagnosis payload payload.prettyText :=
    .data hk fun _ he => (Option.some.inj he).symm
  refine ⟨payload, Failure.ofJson Sample.errorless, .result rfl rfl, rfl, rfl, rfl, ?_, ?_⟩
  · exact Failure.not_diagnosis_null rfl hk rfl
  · have htext : payload.prettyText =
        "\x7b\n  \"error\": null,\n  \"parse_status\": \"err\"\n\x7d" := by rfl
    exact htext ▸ hdata

end PlanCourier

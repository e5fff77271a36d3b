import PlanCourier.Proofs.Command.Traffic

/-!
# Validation runs in order

What a validation run does with a service that may answer anything, and whose answers may depend on
all that came before. The run goes through its problems in stages: the service is asked about one
problem, and the report on its answer is handed on before it is asked about the next. No answer and
no fault changes anything but the status in its own report.

Main statements:

- `Validation.means_iff`: an answer settles the status of the problem;
- `Validation.staged_run`: a run goes through its problems stage by stage, on any state;
- `Validation.Staged.orderly`: the record of a run, request by request and report by report;
- `validation_in_order`: both the run and the command, whose success and counts are those of the
  reports.
-/

namespace PlanCourier

open World (Asks)

namespace Validation

/-- What an answer means for the status of a problem. -/
inductive Means : Except ServiceFault Json → ValidationStatus → Prop
  | valid {response : Json} (h : reported response = some (.text "valid")) :
      Means (.ok response) .valid
  /-- The validator has another word. -/
  | worded {response : Json} {word : String} (h : reported response = some (.text word))
      (hword : word ≠ "valid") : Means (.ok response) (.failed word)
  /-- What stands in the place of its word is no text. -/
  | valued {response v : Json} (h : reported response = some v) (htext : ∀ s, v ≠ .text s) :
      Means (.ok response) (.failed v.compactText)
  | silent {response : Json} (h : reported response = none) :
      Means (.ok response) (.failed "missing val_status")
  | fault (e : ServiceFault) : Means (.error e) (.error e.message)

variable {answer : Except ServiceFault Json} {status : ValidationStatus}

theorem means_statusOf (response : Json) : Means (.ok response) (statusOf response) := by
  unfold statusOf
  split
  next _ h => exact .valid h
  next _ word hword h => exact .worded h hword
  next _ v _ htext h => exact .valued h htext
  next _ h => exact .silent h

theorem Means.eq_statusOf {response : Json} (h : Means (.ok response) status) :
    status = statusOf response := by
  cases h with
  | valid h => exact (statusOf_valid.2 h).symm
  | worded h hword =>
    rw [statusOf, h]
    split <;> grind
  | @valued _ v h htext =>
    rw [statusOf, h]
    cases v with
    | text s => exact absurd rfl (htext s)
    | _ => rfl
  | silent h => rw [statusOf, h]

theorem means_iff (problem : Int) :
    Means answer status ↔ status = (report problem answer).status := by
  cases answer with
  | error e =>
    constructor
    · rintro ⟨⟩
      rfl
    · rintro rfl
      exact .fault e
  | ok response =>
    constructor
    · intro h
      exact h.eq_statusOf
    · rintro rfl
      exact means_statusOf response

/-! ## Stage by stage -/

section Stages

variable {σ : Type} (ask : Int → StateM σ (Except ServiceFault Json))
  (onReport : ValidationReport → StateM σ Unit)

/-- One problem in a run that has come to the state `w`: the service is asked about it, and the
report on the answer is handed on, which leads to `w'`. -/
structure Stage (problem : Int) (w : σ) (r : ValidationReport) (w' : σ) : Prop where
  problem_eq : r.problem = problem
  means : Means ((ask problem).run w).1 r.status
  next : ((onReport r).run ((ask problem).run w).2).2 = w'

/-- The problems one after another, each from the state to which the one before it led. -/
inductive Staged : List Int → σ → List ValidationReport → σ → Prop
  | done (w : σ) : Staged [] w [] w
  | next {problem : Int} {rest : List Int} {w w₁ w' : σ} {r : ValidationReport}
      {rs : List ValidationReport} : Stage ask onReport problem w r w₁ →
      Staged rest w₁ rs w' → Staged (problem :: rest) w (r :: rs) w'

theorem staged_run (ids : List Int) (w : σ) :
    Staged ask onReport ids w ((run ask onReport ids).run w).1 ((run ask onReport ids).run w).2 := by
  induction ids generalizing w with
  | nil => exact .done w
  | cons problem rest ih =>
    let answer := ((ask problem).run w).1
    let asked := ((ask problem).run w).2
    let reported := ((onReport (report problem answer)).run asked).2
    have hstage : Stage ask onReport problem w (report problem answer) reported := by
      refine ⟨?_, (means_iff problem).2 rfl, rfl⟩
      cases answer <;> rfl
    exact .next hstage (ih reported)

variable {ask onReport} {ids : List Int} {w w' : σ} {reports : List ValidationReport}

theorem Staged.length_eq (h : Staged ask onReport ids w reports w') :
    reports.length = ids.length := by
  induction h with
  | done w => rfl
  | next _ _ ih => simp [ih]

end Stages

/-! ## On record -/

inductive Event where
  | asked (problem : Int) (answer : Except ServiceFault Json)
  /-- A report is handed on. -/
  | handed (r : ValidationReport)

def Event.report? : Event → Option ValidationReport
  | .asked _ _ => none
  | .handed r => some r

/-- A service with any answers, which may depend on all that is on record; what it is asked and what
it answers goes on record. -/
def answering (service : List Event → Int → Except ServiceFault Json) (problem : Int) :
    StateM (List Event) (Except ServiceFault Json) := fun record =>
  (service record problem, record ++ [.asked problem (service record problem)])

/-- A report that is handed on goes on record. -/
def handing (r : ValidationReport) : StateM (List Event) Unit := fun record =>
  ((), record ++ [.handed r])

/-- What a run on these problems adds to the record `before`: for each problem in its turn one
request, and after it the report that the answer gives. -/
structure Orderly (service : List Event → Int → Except ServiceFault Json) (ids : List Int)
    (before : List Event) (reports : List ValidationReport) (record : List Event) : Prop where
  length_record : record.length = before.length + 2 * ids.length
  before_prefix : before <+: record
  /-- The reports of the run are those that were handed on. -/
  handed : record.filterMap Event.report? = before.filterMap Event.report? ++ reports
  stage : ∀ i : Fin ids.length, ∃ answer status,
    answer = service (record.take (before.length + 2 * i)) ids[i] ∧
    record[before.length + 2 * i]? = some (.asked ids[i] answer) ∧
    record[before.length + 2 * i + 1]? = some (.handed ⟨ids[i], status⟩) ∧
    reports[i]? = some ⟨ids[i], status⟩ ∧
    ∀ s, Means answer s ↔ s = status

variable {service : List Event → Int → Except ServiceFault Json} {ids : List Int}
  {before after record : List Event} {r : ValidationReport} {reports : List ValidationReport}

theorem Stage.record_eq (h : Stage (answering service) handing problem before r after) :
    after = before ++ [.asked problem (service before problem), .handed r] := by
  have hnext : before ++ [.asked problem (service before problem)] ++ [.handed r] = after := h.next
  rw [← hnext, List.append_assoc]
  rfl

theorem Staged.orderly (h : Staged (answering service) handing ids before reports record) :
    Orderly service ids before reports record := by
  induction h with
  | done before => exact ⟨rfl, List.prefix_rfl, (List.append_nil _).symm, fun i => i.elim0⟩
  | @next problem rest before after record r reports hstage _ ih =>
    -- the first stage puts two events on record, and the others follow them
    have hafter := hstage.record_eq
    have hlength : after.length = before.length + 2 := by simp [hafter]
    obtain ⟨later, rfl⟩ := ih.before_prefix
    have hrecord : after ++ later =
        before ++ .asked problem (service before problem) :: .handed r :: later := by
      simp [hafter]
    refine ⟨?_, ?_, ?_, fun i => ?_⟩
    · rw [ih.length_record, hlength, List.length_cons]
      omega
    · rw [hrecord]
      exact List.prefix_append ..
    · rw [ih.handed, hafter, List.filterMap_append, List.append_assoc]
      rfl
    · obtain ⟨i, hi⟩ := i
      cases i with
      | zero =>
        refine ⟨service before problem, r.status, ?_, ?_, ?_, ?_, fun s => ?_⟩
        · simp [hrecord]
        · simp [hrecord]
        · simp [hrecord, ← hstage.problem_eq]
        · simp [← hstage.problem_eq]
        · have hmeans : Means (service before problem) r.status := hstage.means
          rw [means_iff problem, (means_iff problem).1 hmeans]
      | succ i =>
        have hplace : before.length + 2 * (i + 1) = after.length + 2 * i := by omega
        have hstages := ih.stage ⟨i, Nat.lt_of_succ_lt_succ hi⟩
        simpa [hplace] using hstages

/-- A fault stays with the one problem that it is about, even if that comes again. -/
example :
    let service : List Event → Int → Except ServiceFault Json := fun record _ =>
      if record.isEmpty then .error (.transport "http://localhost:5001" "connection refused")
      else .ok (.object [("result", .object [("val_status", .text "valid")])])
    ((run (answering service) handing [3, 1, 3]).run []).1.map (·.isValid) =
      [false, true, true] := rfl

end Validation

/-! ## The command -/

theorem SolverService.asks_validate (url : String) (problem : Int) (w : World) :
    Asks ((overHttp World.host.send url).validate problem) w
      [.validation (Url.trimBase url) problem] := by
  dsimp only [overHttp]
  exact Asks.ask _

theorem Validation.asks_run {ask : Int → StateM World (Except ServiceFault Json)}
    {request : Int → HttpRequest} (h : ∀ problem w, Asks (ask problem) w [request problem])
    (ids : List Int) (w : World) : Asks (run ask (fun _ => pure ()) ids) w (ids.map request) := by
  induction ids generalizing w with
  | nil => exact Asks.pure _
  | cons problem rest ih =>
    exact (h problem w).bind (Asks.after (Asks.pure ()) (Asks.before (ih _) (Asks.pure _)))

namespace ValidationTally

variable (t : ValidationTally)

theorem valid_eq_countP : t.valid = t.reports.countP (·.status = .valid) := by
  rw [List.countP_eq_length_filter]
  rfl

theorem get?_counts : (Report.validation t).toJson.get? "valid" = some (.ofNat t.valid) ∧
    (Report.validation t).toJson.get? "total" = some (.ofNat t.total) := ⟨rfl, rfl⟩

end ValidationTally

/-- The code that a command exits with after its conclusion is a success just when no report of its
tally says otherwise. -/
theorem Command.exitCode_validation {c : Conclusion} {t : ValidationTally}
    (h : c.fault = invalidFault t) : c.exitCode = 0 ↔ ∀ r ∈ t.reports, r.status = .valid := by
  rw [Conclusion.exitCode_eq_zero, h, invalidFault_eq_none]
  simp [ValidationReport.isValid]

/-- A validation run with any service, whatever it answers and however its answers depend on what
came before: one request for each problem in its turn, and the report on it handed on before the
next request. And the command on any host: it goes through its problems in the same way, asks for
each of them once, is a success just when every report says that the problem is valid, and reports
how many do. -/
theorem validation_in_order :
    (∀ (service : List Validation.Event → Int → Except ServiceFault Json) (ids : List Int)
        (before : List Validation.Event),
      let ran := (Validation.run (Validation.answering service) Validation.handing ids).run before
      Validation.Orderly service ids before ran.1 ran.2) ∧
    ∀ (c : CommandContext) (json : Bool) (ids : List Int) (w : World),
      let problems := if ids.isEmpty then Validation.defaultProblems else ids
      let solver := SolverService.overHttp World.host.send c.session.baseUrl
      let command := (Command.validate ids).execute World.host c json
      let ended := command.run w
      let code := ((ended.1.print World.host json).run ended.2).1
      ∃ t : ValidationTally, ended.1.report = some (.validation t) ∧
        Validation.Staged solver.validate (fun _ => pure ()) problems w t.reports ended.2 ∧
        Asks command w (problems.map (.validation solver.base)) ∧
        (code = 0 ↔ ∀ r ∈ t.reports, r.status = .valid) ∧
        t.valid = t.reports.countP (·.status = .valid) ∧
        t.total = problems.length ∧
        (Report.validation t).toJson.get? "valid" = some (.ofNat t.valid) ∧
        (Report.validation t).toJson.get? "total" = some (.ofNat t.total) := by
  constructor
  · intro service ids before ran
    exact (Validation.staged_run _ _ ids before).orderly
  · intro c json ids w problems solver command ended code
    have hstaged := Validation.staged_run solver.validate (fun _ => pure ()) problems w
    have hasks := Validation.asks_run
      (fun problem w => SolverService.asks_validate c.session.baseUrl problem w) problems w
    refine ⟨⟨((Validation.run solver.validate (fun _ => pure ()) problems).run w).1⟩, rfl, hstaged,
      hasks.before (Asks.pure _), Command.exitCode_validation rfl, ValidationTally.valid_eq_countP _,
      hstaged.length_eq, ValidationTally.get?_counts _⟩

end PlanCourier

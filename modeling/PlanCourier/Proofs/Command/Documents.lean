import PlanCourier.Proofs.Command.Parts
import PlanCourier.Proofs.Command.Requests
import PlanCourier.Proofs.Json.Nesting

/-!
# The documents of a run

What a run writes to its output where the output is JSON. Nothing is written while a command is
carried out; at its end the report is one document and the fault is another one. So the output is
one document, unless a command ends with both: then it is the report on what did not go well, and
after it the fault that says so once more. Two commands can end so: a solve that failed or took too
long, and a validation run in which a problem did not validate. A run whose log cannot be opened
writes nothing at all.

Main statements:

- `Report.isSome_setback?`: the reports that are followed by a fault;
- `Command.endsWith_execute`: how a command ends, and which base URL its report names;
- `Command.concludes_execute`: no command writes before its end;
- `documents_of_run`: what a run writes, and when that is one JSON text.
-/

namespace PlanCourier

namespace Report

/-- The fault that follows a report. -/
def setback? : Report → Option CommandFault
  | .solve r => (SolveOrder.conclude r).fault
  | .validation t => Command.invalidFault t
  | _ => none

/-- Whether a report is on what did not go well: a solve that failed or took too long, or a problem
that did not validate. -/
inductive IsSetback : Report → Prop
  | failed {r : SolveReport} {failure} : r.outcome = .failed failure → IsSetback (.solve r)
  | timedOut {r : SolveReport} {attempts} : r.outcome = .timedOut attempts → IsSetback (.solve r)
  | invalid {t : ValidationTally} {r} : r ∈ t.reports → r.isValid = false →
      IsSetback (.validation t)

theorem isSome_setback?_solve {r : SolveReport} :
    (solve r).setback?.isSome ↔ (∃ f, r.outcome = .failed f) ∨ ∃ n, r.outcome = .timedOut n := by
  unfold setback? SolveOrder.conclude
  cases h : r.outcome <;> simp [h, Conclusion.reported]

theorem isSome_setback?_validation {t : ValidationTally} :
    (validation t).setback?.isSome ↔ ∃ r ∈ t.reports, r.isValid = false := by
  rw [setback?, Option.isSome_iff_ne_none, ne_eq, Command.invalidFault_eq_none]
  simp

/-- Just the reports on what did not go well are followed by a fault. -/
theorem isSome_setback? {r : Report} : r.setback?.isSome ↔ r.IsSetback := by
  cases r with
  | solve r =>
    rw [isSome_setback?_solve]
    constructor
    · rintro (⟨_, h⟩ | ⟨_, h⟩)
      · exact .failed h
      · exact .timedOut h
    · rintro (h | h | _)
      · exact .inl ⟨_, h⟩
      · exact .inr ⟨_, h⟩
  | validation t =>
    rw [isSome_setback?_validation]
    constructor
    · rintro ⟨r, hr, hinvalid⟩
      exact .invalid hr hinvalid
    · rintro (_ | _ | ⟨hr, hinvalid⟩)
      exact ⟨_, hr, hinvalid⟩
  | _ => exact ⟨nofun, nofun⟩

theorem exists_object (r : Report) : ∃ ms, r.toJson = .object ms := by
  cases r <;> exact ⟨_, rfl⟩

end Report

theorem CommandFault.exists_object (f : CommandFault) : ∃ ms, f.toJson = .object ms := ⟨_, rfl⟩

namespace Conclusion

/-- How commands end: with a report, with a report on what did not go well and a fault, or with a
fault alone. -/
inductive IsSound : Conclusion → Prop
  | reported {r : Report} : ¬ r.IsSetback → IsSound (.reported r)
  | setback {r : Report} {f : CommandFault} : r.IsSetback → IsSound ⟨some r, some f⟩
  | failed (f : CommandFault) : IsSound (.failed f)

theorem isSound_of_report (r : Report) : IsSound ⟨some r, r.setback?⟩ := by
  cases h : r.setback? with
  | none => exact .reported fun hr => by simpa [h] using Report.isSome_setback?.2 hr
  | some f => exact .setback (Report.isSome_setback?.1 (by simp [h]))

end Conclusion

/-! ## What is written while a command is carried out -/

namespace World

theorem ignoresFiles_output : IgnoresFiles output := fun _ _ => rfl

namespace Keeps

theorem ask (r : HttpRequest) : Keeps output (r.ask host.send) := by
  unfold HttpRequest.ask
  split
  · exact pure _
  · exact bind ⟨fun _ => rfl⟩ fun _ => pure _

theorem err (line : String) : Keeps output (host.err line) := ⟨fun _ => rfl⟩

/-- Where the output is JSON, the user is told everything beside it. -/
theorem tell_json (n : Notice) : Keeps output (SolveOrder.tell host true n) := by
  have hnone : (n.shown true).1 = [] := by
    unfold Notice.shown
    split <;> rfl
  unfold SolveOrder.tell
  rw [hnone]
  exact (pure ()).bind fun _ => writeAll err _

end Keeps

theorem unmoved_output (api url : String) : Unmoved output api url :=
  ⟨fun r _ => Keeps.ask r, fun _ => ⟨fun _ => rfl⟩⟩

end World

open World (Keeps)

/-! ## How commands end -/

def Report.baseUrl? : Report → Option String
  | .packages url _ => some url
  | .settings url _ _ => some url
  | .solve r => some r.baseUrl
  | _ => none

namespace Conclusion

/-- How a command that works with this base URL ends: with a fault alone, or with a report, which
names no other base URL, and the fault that follows it. -/
inductive EndsWith (url : String) : Conclusion → Prop
  | failed (f : CommandFault) : EndsWith url (.failed f)
  | reported {r : Report} : (∀ u ∈ r.baseUrl?, u = url) → EndsWith url ⟨some r, r.setback?⟩

theorem EndsWith.isSound {url : String} {c : Conclusion} (h : EndsWith url c) : c.IsSound := by
  cases h with
  | failed f => exact .failed f
  | reported => exact isSound_of_report _

theorem EndsWith.url_eq {url u : String} {c : Conclusion} {r : Report} (h : EndsWith url c)
    (hr : c.report = some r) (hu : r.baseUrl? = some u) : u = url := by
  cases h with
  | failed f => cases hr
  | reported hurl =>
    obtain rfl := Option.some.inj hr
    exact hurl u hu

theorem EndsWith.of_reported {url : String} {r : Report} (hsetback : r.setback? = none)
    (hurl : ∀ u ∈ r.baseUrl?, u = url) : EndsWith url (.reported r) := by
  have h := EndsWith.reported hurl
  rwa [hsetback] at h

end Conclusion

open Conclusion (EndsWith)

/-- Whatever the world is, what the action gives has this property. -/
structure World.Gives (Q : α → Prop) (x : StateM World α) : Prop where
  given : ∀ w, Q (x.run w).1

namespace World.Gives

variable {Q : α → Prop}

theorem pure {a : α} (h : Q a) : Gives Q (pure a) := ⟨fun _ => h⟩

theorem bind {x : StateM World β} {f : β → StateM World α} (hf : ∀ b, Gives Q (f b)) :
    Gives Q (x >>= f) := ⟨fun _ => (hf _).given _⟩

end World.Gives

open World (Gives)

namespace SolveOrder

theorem endsWith_conclude {url : String} {r : SolveReport} (hurl : r.baseUrl = url) :
    EndsWith url (conclude r) := by
  have hreport : (conclude r).report = some (.solve r) := by
    unfold conclude
    split <;> rfl
  have h : conclude r = ⟨some (.solve r), (Report.solve r).setback?⟩ := by
    rw [← hreport]
    rfl
  rw [h]
  exact .reported fun u hu => (Option.some.inj hu).symm.trans hurl

variable (c : CommandContext) (json : Bool)

theorem endsWith_pursue (package : String) (started : Moment) (request : Request) :
    Gives (EndsWith c.session.baseUrl) (pursue World.host c json package started request) := by
  unfold pursue
  refine Gives.bind fun result => ?_
  split
  · exact .pure (.failed _)
  · exact .bind fun _ => .pure (endsWith_conclude rfl)

theorem endsWith_carryOut (o : SolveOrder) :
    Gives (EndsWith c.session.baseUrl) (o.carryOut World.host c json) := by
  refine .bind fun started => .bind fun built => ?_
  split
  · exact .pure (.failed _)
  · refine .bind fun settled => ?_
    dsimp only
    split
    · exact .pure (.failed _)
    · exact endsWith_pursue c json _ _ _

end SolveOrder

namespace Command

variable {url : String}

theorem endsWith_ofService (report : α → Report) (hsetback : ∀ a, (report a).setback? = none)
    (hurl : ∀ a, (report a).baseUrl? = none) (r : Except ServiceFault α) :
    EndsWith url (ofService report r) := by
  cases r with
  | error fault => exact .failed _
  | ok a => exact .of_reported (hsetback a) (by simp [hurl])

theorem endsWith_ofCatalog (report : α → Report) (hsetback : ∀ a, (report a).setback? = none)
    (hurl : ∀ a, ∀ u ∈ (report a).baseUrl?, u = url) (r : Except SolveFault α) :
    EndsWith url (ofCatalog report r) := by
  cases r with
  | error fault => exact .failed _
  | ok a => exact .of_reported (hsetback a) (hurl a)

theorem endsWith_listPackages (c : CommandContext) (name : Option String) :
    Gives (EndsWith c.session.baseUrl) (listPackages World.host c name) := by
  cases name with
  | none =>
    refine .bind fun _ => .pure (endsWith_ofCatalog _ (fun _ => rfl) ?_ _)
    exact fun _ u hu => (Option.some.inj hu).symm
  | some name =>
    refine .bind fun _ => .pure (endsWith_ofCatalog _ (fun _ => rfl) ?_ _)
    simp [Report.baseUrl?]

theorem endsWith_listDomainsOf (api wanted : String) : Gives (EndsWith url)
    (listDomainsOf (CollectionService.overHttp World.host.send api) wanted) := by
  refine .bind fun offered => ?_
  split
  · exact .pure (.failed _)
  · split
    · exact .pure (.failed _)
    · exact .bind fun _ => .pure (endsWith_ofService .domains (fun _ => rfl) (fun _ => rfl) _)

theorem endsWith_saveUrl (c : CommandContext) (given : String) :
    Gives (EndsWith (Text.trimmed given)) (saveUrl World.host c given) := by
  unfold saveUrl
  dsimp only
  split
  · refine .bind fun saved => ?_
    split
    · exact .pure (.failed _)
    · exact .pure (.of_reported rfl fun u hu => (Option.some.inj hu).symm)
  · exact .pure (.failed _)

theorem endsWith_execute (c : CommandContext) (json : Bool) {command : Command}
    (hcommand : ∀ given, command ≠ .setUrl given) :
    Gives (EndsWith c.session.baseUrl) (command.execute World.host c json) := by
  cases command with
  | solve order => exact order.endsWith_carryOut c json
  | packages name => exact endsWith_listPackages c name
  | collections =>
    exact .bind fun _ => .pure (endsWith_ofService .collections (fun _ => rfl) (fun _ => rfl) _)
  | domains wanted =>
    cases wanted with
    | none =>
      exact .bind fun _ => .pure (endsWith_ofService .domains (fun _ => rfl) (fun _ => rfl) _)
    | some wanted => exact endsWith_listDomainsOf _ wanted
  | problems domain =>
    exact .bind fun _ =>
      .pure (endsWith_ofService (.problems domain) (fun _ => rfl) (fun _ => rfl) _)
  | validate ids =>
    exact .bind fun reports =>
      .pure (.reported nofun : EndsWith _ ⟨some (.validation ⟨reports⟩), _⟩)
  | showSettings => exact .pure (.of_reported rfl fun u hu => (Option.some.inj hu).symm)
  | setUrl given => exact absurd rfl (hcommand given)

end Command

namespace World

/-- The action writes no output and gives a conclusion that commands end with. -/
structure Concludes (x : StateM World Conclusion) : Prop where
  quiet : Keeps output x
  sound : ∀ w, (x.run w).1.IsSound

namespace Concludes

theorem pure {c : Conclusion} (h : c.IsSound) : Concludes (pure c) := ⟨Keeps.pure c, fun _ => h⟩

theorem bind {x : StateM World α} {f : α → StateM World Conclusion} (hx : Keeps output x)
    (hf : ∀ a, Concludes (f a)) : Concludes (x >>= f) :=
  ⟨hx.bind fun a => (hf a).quiet, fun _ => (hf _).sound _⟩

end Concludes

end World

open World (Concludes)

/-- No command writes before its end, and every command ends with a report, which a fault follows
where it is on what did not go well, or with a fault. -/
theorem Command.concludes_execute (c : CommandContext) (command : Command) :
    Concludes (command.execute World.host c true) := by
  refine ⟨?_, fun w => ?_⟩
  · exact keeps_execute (World.unmoved_output _ _) Keeps.tell_json command
      fun _ _ => World.ignoresFiles_output
  · -- the command that saves a base URL ends with that one, every other with the session's
    by_cases hsave : ∃ given, command = .setUrl given
    · obtain ⟨given, rfl⟩ := hsave
      exact ((endsWith_saveUrl c given).given w).isSound
    · exact ((endsWith_execute c true (not_exists.1 hsave)).given w).isSound

namespace Invocation

variable {i : Invocation} {env : Environment} {w : World}

/-- Where the output is JSON, a run writes none up to the point where its conclusion is printed. -/
theorem quiet_conclude (hjson : i.options.json = true) :
    ((i.conclude World.host env).run w).2.output = w.output := by
  cases hloaded : ((i.loadConfig World.host env).run w).1 with
  | error fault => rw [run_conclude_of_fault hloaded]
  | ok config =>
    have hstarted := view_started World.ignoresFiles_output config w
    cases hlog : (opened config w).1 with
    | error fault =>
      rw [run_conclude_of_unopened hloaded hlog]
      exact hstarted
    | ok =>
      rw [run_conclude_of_opened hloaded hlog, hjson]
      exact ((Command.concludes_execute _ _).quiet.kept _).trans hstarted

theorem isSound_conclude {c : Conclusion} (hjson : i.options.json = true)
    (h : ((i.conclude World.host env).run w).1 = .ok c) : c.IsSound := by
  cases hloaded : ((i.loadConfig World.host env).run w).1 with
  | error fault =>
    rw [run_conclude_of_fault hloaded] at h
    obtain rfl := Except.ok.inj h
    exact .failed _
  | ok config =>
    cases hlog : (opened config w).1 with
    | error fault =>
      rw [run_conclude_of_unopened hloaded hlog] at h
      cases h
    | ok =>
      rw [run_conclude_of_opened hloaded hlog, hjson] at h
      obtain rfl := Except.ok.inj h
      exact (Command.concludes_execute _ _).sound _

end Invocation

/-! ## What is written at the end -/

namespace World

/-- What is written of lines: each of them ends its line. -/
def written (lines : List String) : List Char := lines.flatMap fun line => line.toList ++ ['\n']

theorem output_writeAll (lines : List String) (w : World) :
    ((Conclusion.writeAll host.out lines).run w).2.output = w.output ++ lines := by
  induction lines generalizing w with
  | nil => exact (List.append_nil _).symm
  | cons line rest ih =>
    have h : ((Conclusion.writeAll host.out (line :: rest)).run w).2 =
      ((Conclusion.writeAll host.out rest).run { w with output := w.output ++ [line] }).2 := rfl
    rw [h, ih, List.append_assoc]
    rfl

theorem code_print (c : Conclusion) (json : Bool) (w : World) :
    ((c.print host json).run w).1 = c.exitCode := rfl

theorem output_print (c : Conclusion) (json : Bool) (w : World) :
    ((c.print host json).run w).2.output = w.output ++ c.lines json := by
  have h : (c.print host json).run w = (do
      Conclusion.writeAll host.err (c.messages json)
      return c.exitCode).run ((Conclusion.writeAll host.out (c.lines json)).run w).2 := rfl
  rw [h, (Keeps.bind (Keeps.writeAll Keeps.err _) fun _ => Keeps.pure _).kept, output_writeAll]

end World

namespace Json

theorem derives_prettyText (v : Json) : Derives .value v.prettyText.toList := by
  rw [prettyText, String.toList_ofList]
  exact derives_prettyAt 0 v

theorem derives_compactText (v : Json) : Derives .value v.compactText.toList := by
  rw [compactText, String.toList_ofList]
  exact derives_compact v

theorem isOpening_prettyText {v : Json} {ms : List (String × Json)} (h : v = .object ms) :
    v.prettyText.toList.head?.any isOpening := by
  subst h
  rw [prettyText, String.toList_ofList, pretty]
  cases ms <;> rfl

theorem isOpening_compactText {v : Json} {ms : List (String × Json)} (h : v = .object ms) :
    v.compactText.toList.head?.any isOpening := by
  subst h
  rw [compactText, String.toList_ofList]
  cases ms <;> rfl

theorem isBlanks_feed : IsBlanks ['\n'] := by simp [IsBlanks, isGap]

end Json

namespace Conclusion

variable {c : Conclusion}

/-- Every line of a conclusion in JSON is a JSON text. -/
theorem isText_of_mem_lines {line : String} (h : line ∈ c.lines true) :
    Json.IsText line.toList := by
  have hvalue : Json.Derives .value line.toList := by
    simp only [lines, if_true, List.mem_append, Option.mem_toList, Option.map_eq_some_iff] at h
    obtain ⟨r, -, rfl⟩ | ⟨f, -, rfl⟩ := h
    · exact Json.derives_prettyText _
    · exact Json.derives_compactText _
  simpa using Json.isText_of_value hvalue Json.isBlanks_nil

/-- The lines of a conclusion that commands end with, and the code to exit with. -/
theorem IsSound.documents (h : c.IsSound) :
    (∃ f, c = .failed f ∧ c.lines true = [f.toJson.compactText] ∧ c.exitCode = 1) ∨
    (∃ r, c = .reported r ∧ ¬ r.IsSetback ∧ c.lines true = [r.toJson.prettyText] ∧
      c.exitCode = 0) ∨
    ∃ r f, c = ⟨some r, some f⟩ ∧ r.IsSetback ∧
      c.lines true = [r.toJson.prettyText, f.toJson.compactText] ∧ c.exitCode = 1 := by
  cases h with
  | reported hr => exact .inr (.inl ⟨_, rfl, hr, rfl, rfl⟩)
  | setback hr => exact .inr (.inr ⟨_, _, rfl, hr, rfl, rfl⟩)
  | failed f => exact .inl ⟨f, rfl, rfl, rfl⟩

/-- All lines together are one JSON text where no fault follows a report. -/
theorem isText_written_iff (h : c.IsSound) :
    Json.IsText (World.written (c.lines true)) ↔ ∀ r, c.report = some r → ¬ r.IsSetback := by
  have hfeed := Json.isBlanks_feed
  cases h with
  | @reported r hr =>
    have hlines : World.written ((reported r).lines true) =
      r.toJson.prettyText.toList ++ ['\n'] := List.append_nil _
    rw [hlines]
    refine ⟨fun _ r' hr' => ?_, fun _ => Json.isText_of_value (Json.derives_prettyText _) hfeed⟩
    obtain rfl : r = r' := Option.some.inj hr'
    exact hr
  | @setback r f hr =>
    have hlines : World.written (lines true ⟨some r, some f⟩) =
      r.toJson.prettyText.toList ++ (['\n'] ++ (f.toJson.compactText.toList ++ ['\n'])) := by
      simp [World.written, lines]
    obtain ⟨ms, hms⟩ := r.exists_object
    obtain ⟨ms', hms'⟩ := f.exists_object
    have hnot := Json.not_isText_append (Json.derives_prettyText r.toJson)
      (Json.derives_compactText f.toJson) (Json.isOpening_prettyText hms)
      (Json.isOpening_compactText hms') hfeed hfeed
    rw [hlines]
    exact ⟨fun h => absurd h hnot, fun h => absurd hr (h r rfl)⟩
  | failed f =>
    have hlines : World.written ((failed f).lines true) =
      f.toJson.compactText.toList ++ ['\n'] := List.append_nil _
    rw [hlines]
    refine ⟨fun _ r hr => ?_, fun _ => Json.isText_of_value (Json.derives_compactText _) hfeed⟩
    cases hr

end Conclusion

namespace Invocation

variable {i : Invocation} {env : Environment} {w : World}

theorem output_run_of_ok {c : Conclusion} (hjson : i.options.json = true)
    (h : ((i.conclude World.host env).run w).1 = .ok c) :
    ((i.run World.host env).run w).2.output = w.output ++ c.lines true := by
  rw [run_of_ok h, World.output_print, quiet_conclude hjson, hjson]

theorem output_run_of_error {fault : LogFile.Fault} (hjson : i.options.json = true)
    (h : ((i.conclude World.host env).run w).1 = .error fault) :
    ((i.run World.host env).run w).2.output = w.output := by
  rw [run_of_error h]
  exact quiet_conclude hjson

end Invocation

/-- What a run writes where its output is JSON, on every host: whatever its files hold and whatever
the servers answer. A run whose log cannot be opened writes nothing. -/
theorem documents_of_run {words : List String} {i : Invocation} (env : Environment)
    (hwords : Invocation.ofArguments words = .ok i) (hjson : i.options.json = true) (w : World) :
    let concluded := ((i.conclude World.host env).run w).1
    let ran := (Program.run World.host env words).run w
    ∃ lines, ran.2.output = w.output ++ lines ∧
      (∀ line ∈ lines, Json.IsText line.toList) ∧
      ((∃ config fault, ((i.loadConfig World.host env).run w).1 = .ok config ∧
          (Invocation.opened config w).1 = .error fault ∧ concluded = .error fault ∧
          lines = [] ∧ ran.1 = Host.abortCode) ∨
        (∃ f, concluded = .ok (.failed f) ∧ lines = [f.toJson.compactText] ∧ ran.1 = 1) ∨
        (∃ r, concluded = .ok (.reported r) ∧ ¬ r.IsSetback ∧ lines = [r.toJson.prettyText] ∧
          ran.1 = 0) ∨
        (∃ r f, concluded = .ok ⟨some r, some f⟩ ∧ r.IsSetback ∧
          lines = [r.toJson.prettyText, f.toJson.compactText] ∧ ran.1 = 1)) ∧
      (Json.IsText (World.written lines) ↔
        ∃ c, concluded = .ok c ∧ ∀ r, c.report = some r → ¬ r.IsSetback) := by
  intro concluded ran
  have hrun : ran = (i.run World.host env).run w := by
    simp [ran, Program.run, hwords]
  cases hconcluded : concluded with
  | error fault =>
    obtain ⟨config, hloaded, hlog⟩ := Invocation.conclude_eq_error_iff.1 hconcluded
    have hcode : ran.1 = Host.abortCode := by
      rw [hrun, Invocation.run_of_error hconcluded, World.code_abort]
    refine ⟨[], ?_, by simp, .inl ⟨config, fault, hloaded, hlog, rfl, rfl, hcode⟩, ?_⟩
    · rw [hrun, Invocation.output_run_of_error hjson hconcluded, List.append_nil]
    · exact ⟨fun h => absurd rfl h.ne_nil, by rintro ⟨_, ⟨⟩, -⟩⟩
  | ok c =>
    have hsound := Invocation.isSound_conclude hjson hconcluded
    have hcode : ran.1 = c.exitCode := by
      rw [hrun, Invocation.run_of_ok hconcluded, World.code_print]
    refine ⟨c.lines true, ?_, fun line => Conclusion.isText_of_mem_lines, .inr ?_, ?_⟩
    · rw [hrun]
      exact Invocation.output_run_of_ok hjson hconcluded
    · simpa only [hcode, Except.ok.injEq] using hsound.documents
    · rw [Conclusion.isText_written_iff hsound]
      simp

/-- A log whose directory is to lie below a file: nothing is written, and the code is an abort's. -/
example :
    let files := (Files.emptyAt ["work"]).add ["work", "notes"] (.file (.text ""))
    let ran := (Program.run World.host [("PAAS_LOGGING__LOG_DIR", "notes/logs")]
      ["settings", "show", "--json"]).run (.fresh files .silent ⟨0⟩)
    ran.1 = Host.abortCode ∧ ran.2.output = [] := by
  decide +kernel

/-- Without files and variables, a command works with the built-in configuration. -/
theorem Invocation.run_conclude_offline (command : Command) (json : Bool) :
    (conclude World.host [] ⟨command, ⟨json, none, none⟩⟩).run Sample.offline =
      let ran := (command.execute World.host ⟨.builtin, .fresh "http://localhost:5001"⟩ json).run
        Sample.offline
      (.ok ran.1, ran.2) :=
  run_conclude_of_opened (Sample.loadConfig_offline command json) rfl

/-- Showing the settings writes one JSON text. -/
theorem document_of_shown_settings : ∃ line,
    ((Program.run World.host [] ["settings", "show", "--json"]).run Sample.offline).2.output =
      [line] ∧ Json.IsText (World.written [line]) := by
  have hwords : Invocation.ofArguments ["settings", "show", "--json"] =
    .ok ⟨.showSettings, ⟨true, none, none⟩⟩ := by rfl
  obtain ⟨lines, houtput, -, hends, htext⟩ := documents_of_run [] hwords rfl Sample.offline
  rw [Invocation.run_conclude_offline] at hends htext
  obtain ⟨_, _, -, -, habort, -⟩ | ⟨f, hfailed, -⟩ | ⟨r, -, -, rfl, -⟩ | ⟨r, f, hsetback, -⟩ := hends
  · cases habort
  · cases hfailed
  · refine ⟨_, houtput, htext.2 ⟨_, rfl, fun r' hr' => ?_⟩⟩
    obtain rfl := Option.some.inj hr'
    intro hsetback
    cases hsetback
  · cases hsetback

theorem Command.validateProblems_singleton (c : CommandContext) (problem : Int) (w : World) :
    ((validateProblems World.host c [problem]).run w).1 =
      let service := SolverService.overHttp World.host.send c.session.baseUrl
      let answer := ((service.validate problem).run w).1
      ⟨some (.validation ⟨[Validation.report problem answer]⟩),
        invalidFault ⟨[Validation.report problem answer]⟩⟩ := by
  unfold validateProblems
  generalize SolverService.overHttp World.host.send c.session.baseUrl = service
  rfl

/-- A problem does not validate where nothing can be reached. So the report is written, and after it
the fault, which are two documents and not one. -/
theorem documents_of_rejected_problem : ∃ report fault,
    ((Program.run World.host [] ["validate", "7", "--json"]).run Sample.offline).2.output =
      [report, fault] ∧ ¬ Json.IsText (World.written [report, fault]) := by
  have hwords : Invocation.ofArguments ["validate", "7", "--json"] =
    .ok ⟨.validate [7], ⟨true, none, none⟩⟩ := by rfl
  have hrun : Program.run World.host [] ["validate", "7", "--json"] =
      Invocation.run World.host [] ⟨.validate [7], ⟨true, none, none⟩⟩ := by
    simp [Program.run, hwords]
  obtain ⟨⟨cause, hcause⟩, -⟩ :=
    (HttpRequest.validation (Url.trimBase "http://localhost:5001") 7).ask_silent
      (rfl : Sample.offline.network = .silent)
  let tally : ValidationTally := ⟨[Validation.report 7 (.error cause)]⟩
  have hconclusion : ((Invocation.conclude World.host [] ⟨.validate [7], ⟨true, none, none⟩⟩).run
      Sample.offline).1 = .ok ⟨some (.validation tally), some (.invalid tally)⟩ := by
    rw [Invocation.run_conclude_offline, Command.execute]
    dsimp only
    rw [Command.validateProblems_singleton]
    dsimp only [SolverService.overHttp, Session.fresh]
    rw [hcause]
    rfl
  have houtput := Invocation.output_run_of_ok rfl hconclusion
  have htext := Conclusion.isText_written_iff (.setback (f := .invalid tally)
    (.invalid List.mem_cons_self rfl : (Report.validation tally).IsSetback))
  rw [hrun]
  exact ⟨_, _, houtput, fun h => htext.1 h _ rfl (.invalid List.mem_cons_self rfl)⟩

end PlanCourier

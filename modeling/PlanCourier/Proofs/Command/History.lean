import PlanCourier.Proofs.Command.Documents
import PlanCourier.Proofs.Settings.Kept

/-!
# The settings over many runs

One run after another finds in the settings file what the run before it left there. Only a run that
saves another base URL changes the file; so what a run finds is what the latest of these runs saved,
or what was there at first. From this, from the option of the run and from the configuration follows
the base URL that the run works with.

The log of a run is the one thing that may interfere: it is opened before the settings are read,
and a log that is kept at the place of the settings makes a file there. `SparesFile` says that the
two are not one file, and that opening the log makes no settings file. A run whose log cannot be
opened is given up.

Main statements:

- `Launch.givesUp`: a run whose log cannot be opened;
- `Launch.worksWith`, `Launch.fileAfter_eq`: a run that does not save another base URL;
- `Launch.saves`, `Launch.rejects`: a run that does, and one that is told to save what is no URL;
- `Launch.fileBefore_eq`: what a run finds in the settings file;
- `settings_over_runs`: the base URL of every run of a history, and what becomes of the file.
-/

namespace PlanCourier

open World (Keeps)

/-! ## Frames -/

namespace World

/-- The requests on record that are none of these two services'. -/
def strays (api url : String) (w : World) : HttpRequest → Prop :=
  fun r => r ∈ w.traffic ∧ ¬ r.IsFor api url

theorem ask_cases (r : HttpRequest) (w : World) :
    ((r.ask host.send).run w).2 = w ∨
      ((r.ask host.send).run w).2 = { w with traffic := r :: w.traffic } := by
  unfold HttpRequest.ask
  split
  · exact .inl rfl
  · exact .inr rfl

theorem unmoved_files (api url : String) : Unmoved files api url := by
  refine ⟨fun r _ => ⟨fun w => ?_⟩, fun _ => ⟨fun _ => rfl⟩⟩
  obtain h | h := ask_cases r w <;> rw [h]

theorem unmoved_strays (api url : String) : Unmoved (strays api url) api url := by
  refine ⟨fun r hr => ⟨fun w => ?_⟩, fun _ => ⟨fun _ => rfl⟩⟩
  obtain h | h := ask_cases r w
  · rw [h]
  · rw [h]
    funext r'
    have hother : r' = r → r'.IsFor api url := fun heq => heq ▸ hr
    simp only [strays, List.mem_cons, eq_iff_iff]
    tauto

theorem ignoresLines_files : IgnoresLines files := fun _ _ _ => rfl

theorem ignoresLines_strays (api url : String) : IgnoresLines (strays api url) := fun _ _ _ => rfl

theorem ignoresFiles_strays (api url : String) : IgnoresFiles (strays api url) := fun _ _ => rfl

/-- The action only adds to the files. -/
structure Adds (x : StateM World α) : Prop where
  grows : ∀ w, Files.Grows w.files (x.run w).2.files

namespace Adds

theorem of_keeps {x : StateM World α} (h : Keeps files x) : Adds x := by
  constructor
  intro w
  rw [h.kept]
  exact .refl _

theorem bind {x : StateM World α} {f : α → StateM World β} (hx : Adds x) (hf : ∀ a, Adds (f a)) :
    Adds (x >>= f) := ⟨fun w => (hx.grows w).trans ((hf _).grows _)⟩

theorem makeDirectories (path : String) : Adds (host.files.makeDirectories path) :=
  ⟨fun w => w.files.grows_makeDirectories path⟩

theorem touch (path : String) : Adds (host.files.touch path) := by
  constructor
  intro w
  show Files.Grows w.files (Files.attempt (·.touch path) w.files).2
  unfold Files.attempt
  split
  next after htouch => exact Files.grows_touch htouch
  next => exact .refl _

theorem openLog (path : String) : Adds (LogFile.openAt host.files path) := by
  refine (touch path).bind fun touched => ?_
  split
  · exact of_keeps (.pure _)
  · refine (makeDirectories _).bind fun made => ?_
    split
    · exact of_keeps (.pure _)
    · exact (touch path).bind fun _ => of_keeps (.pure _)

theorem startLog (s : LoggingSection) (now : Moment) : Adds (LogFile.start host.files s now) := by
  unfold LogFile.start
  split
  · exact of_keeps (.pure _)
  · exact openLog _

end Adds

end World

/-! ## Single runs -/

/-- A run of the program whose command line is understood and that loads this configuration, from a
state of the host on. -/
structure Launch (config : Config) where
  words : List String
  env : Environment
  start : World
  invocation : Invocation
  understood : Invocation.ofArguments words = .ok invocation
  loaded : ((invocation.loadConfig World.host env).run start).1 = .ok config

namespace Launch

variable {config : Config} (l : Launch config)

/-- The code that the run exits with, and the host after it. -/
def ran : UInt32 × World := (Program.run World.host l.env l.words).run l.start

/-- The conclusion that the run comes to, unless its log cannot be opened. -/
def concluded : Except LogFile.Fault Conclusion :=
  ((l.invocation.conclude World.host l.env).run l.start).1

/-- The log of the run can be opened, if there is to be one. -/
def Opens : Prop := (Invocation.opened config l.start).1 = .ok ()

instance : Decidable l.Opens :=
  inferInstanceAs (Decidable ((Invocation.opened config l.start).1 = .ok ()))

/-- The host once the log is opened, when the command begins. -/
def started : World := Invocation.started config l.start

def fileBefore : Option Content := l.start.files.content? config.settingsPath

def fileAfter : Option Content := l.ran.2.files.content? config.settingsPath

/-- The base URL that the run saves, if it is told to save one and succeeds. -/
def savedUrl? : Option String :=
  match l.invocation.command with
  | .setUrl given => if l.ran.1 = 0 then some (Text.trimmed given) else none
  | _ => none

/-- The log of the run and the settings are kept apart. -/
structure SparesFile : Prop where
  /-- They are not one file, so that nothing is logged into the settings. -/
  apart : l.Opens → ∀ path ∈ LogFile.path? config.logging l.start.clock,
    l.started.files.locate path ≠ l.started.files.locate config.settingsPath
  /-- Where there is no settings file, opening the log makes none. -/
  absent : l.fileBefore = none → l.started.files.content? config.settingsPath = none

instance : Decidable l.SparesFile :=
  decidable_of_iff
    ((l.Opens → ∀ path ∈ LogFile.path? config.logging l.start.clock,
        l.started.files.locate path ≠ l.started.files.locate config.settingsPath) ∧
      (l.fileBefore = none → l.started.files.content? config.settingsPath = none))
    ⟨fun h => ⟨h.1, h.2⟩, fun h => ⟨h.apart, h.absent⟩⟩

/-- The base URL of a run that finds this in the settings file. -/
def urlWith (kept : Option Content) : String :=
  l.invocation.options.baseUrl.getD
    (((Settings.inContent? kept).map (·.baseUrl)).getD config.service.baseUrl)

/-- The run works with this base URL: the command is carried out with it, all requests to the solver
go there, and no report names another one. -/
structure WorksWith (url : String) : Prop where
  concluded : l.concluded = .ok ((l.invocation.command.execute World.host ⟨config, .fresh url⟩
    l.invocation.options.json).run l.started).1
  requests : ∀ r ∈ l.ran.2.traffic, r ∈ l.start.traffic ∨ r.IsFor config.catalog.apiUrl url
  report : ∀ c r u, l.concluded = .ok c → c.report = some r → r.baseUrl? = some u → u = url

theorem ran_eq : l.ran = (l.invocation.run World.host l.env).run l.start := by
  unfold ran Program.run
  rw [l.understood]

theorem run_conclude (hopens : l.Opens) : (l.invocation.conclude World.host l.env).run l.start =
    let ran := (l.invocation.command.execute World.host (l.invocation.context config l.start)
      l.invocation.options.json).run l.started
    (.ok ran.1, ran.2) :=
  Invocation.run_conclude_of_opened l.loaded hopens

theorem code_eq {c : Conclusion} (h : l.concluded = .ok c) : l.ran.1 = c.exitCode := by
  rw [ran_eq, Invocation.run_of_ok h, World.code_print]

/-- Whatever the run comes to, nothing but what is written changes after that. -/
theorem view_ran {view : World → β} (h : World.IgnoresLines view) :
    view l.ran.2 = view ((l.invocation.conclude World.host l.env).run l.start).2 := by
  rw [ran_eq]
  cases hconcluded : l.concluded with
  | error fault => rw [Invocation.run_of_error hconcluded, (Keeps.abort h _).kept]
  | ok c => rw [Invocation.run_of_ok hconcluded, (Keeps.print h _ _).kept]

theorem grows_started : Files.Grows l.start.files l.started.files :=
  (World.Adds.startLog config.logging l.start.clock).grows l.start

variable {l}

theorem content?_started (hspares : l.SparesFile) :
    l.started.files.content? config.settingsPath = l.fileBefore := by
  cases hbefore : l.fileBefore with
  | none => exact hspares.absent hbefore
  | some c => exact l.grows_started.content?_eq_some hbefore

/-- A run whose log cannot be opened is given up: it asks for nothing, and leaves the settings file
as it was. -/
theorem givesUp (hspares : l.SparesFile) (hunopened : ¬ l.Opens) :
    l.ran.1 = Host.abortCode ∧ l.ran.2.traffic = l.start.traffic ∧ l.fileAfter = l.fileBefore := by
  cases hlog : (Invocation.opened config l.start).1 with
  | ok => exact absurd hlog hunopened
  | error fault =>
    have hconclude := Invocation.run_conclude_of_unopened l.loaded hlog
    have hview {β : Type} {view : World → β} (h : World.IgnoresLines view) :
        view l.ran.2 = view l.started := by
      rw [l.view_ran h, hconclude]
      rfl
    refine ⟨?_, ?_, ?_⟩
    · rw [ran_eq, Invocation.run_of_error (congrArg Prod.fst hconclude), World.code_abort]
    · rw [hview World.Asks.ignoresLines_traffic]
      exact Invocation.view_started World.Asks.ignoresFiles_traffic config l.start
    · rw [fileAfter, hview World.ignoresLines_files, content?_started hspares]

theorem context_eq (hspares : l.SparesFile) :
    l.invocation.context config l.start = ⟨config, .fresh (l.urlWith l.fileBefore)⟩ := by
  have hstart := Session.start_ofRead config.service.baseUrl Settings.syntaxWording
    config.settingsPath l.started.files l.invocation.options.baseUrl
  rw [content?_started hspares] at hstart
  rw [urlWith, ← hstart]
  rfl

/-! ## Runs that save nothing -/

section

variable (hopens : l.Opens) (hcommand : ∀ given, l.invocation.command ≠ .setUrl given)
include hopens hcommand

/-- What the command leaves as it is, in a run that does not save another base URL. -/
theorem view_conclude {view : World → β} {url : String}
    (hurl : l.invocation.context config l.start = ⟨config, .fresh url⟩)
    (hservices : World.Unmoved view config.catalog.apiUrl url) (hlines : World.IgnoresLines view) :
    view l.ran.2 = view l.started := by
  rw [l.view_ran hlines, l.run_conclude hopens, hurl]
  refine (Command.keeps_execute hservices (fun n => Keeps.tell hlines _ n) _ ?_).kept _
  exact fun given h => absurd h (hcommand given)

/-- A run that is not told to save a base URL leaves the settings file as it was. -/
theorem fileAfter_eq (hspares : l.SparesFile) : l.fileAfter = l.fileBefore := by
  have hfiles := view_conclude hopens hcommand (context_eq hspares) (World.unmoved_files _ _)
    World.ignoresLines_files
  rw [fileAfter, hfiles, content?_started hspares]

theorem worksWith (hspares : l.SparesFile) : l.WorksWith (l.urlWith l.fileBefore) := by
  have hcontext := context_eq hspares
  have hconcluded : l.concluded = .ok ((l.invocation.command.execute World.host
      ⟨config, .fresh (l.urlWith l.fileBefore)⟩ l.invocation.options.json).run l.started).1 := by
    rw [concluded, l.run_conclude hopens, hcontext]
  refine ⟨hconcluded, fun r hr => ?_, fun c r u hc hr hu => ?_⟩
  · -- a request that goes elsewhere is on record before the command begins, so before the run
    by_contra hstray
    obtain ⟨hnew, hfor⟩ := not_or.1 hstray
    have hview := view_conclude hopens hcommand hcontext (World.unmoved_strays _ _)
      (World.ignoresLines_strays config.catalog.apiUrl (l.urlWith l.fileBefore))
    have hlog := Invocation.view_started (World.ignoresFiles_strays config.catalog.apiUrl
      (l.urlWith l.fileBefore)) config l.start
    have hthere : World.strays config.catalog.apiUrl (l.urlWith l.fileBefore) l.ran.2 r :=
      ⟨hr, hfor⟩
    rw [hview] at hthere
    have hbefore := (congrFun hlog r).mp hthere
    exact hnew hbefore.1
  · have hends := (Command.endsWith_execute ⟨config, .fresh (l.urlWith l.fileBefore)⟩
      l.invocation.options.json hcommand).given l.started
    obtain rfl := Except.ok.inj (hconcluded.symm.trans hc)
    exact hends.url_eq hr hu

end

/-! ## Runs that are told to save a base URL -/

section

variable {given : String} (hopens : l.Opens) (hcommand : l.invocation.command = .setUrl given)
include hopens hcommand

theorem run_conclude_setUrl : (l.invocation.conclude World.host l.env).run l.start =
    let ran := (Command.saveUrl World.host (l.invocation.context config l.start) given).run
      l.started
    (.ok ran.1, ran.2) := by
  rw [l.run_conclude hopens, hcommand]
  rfl

/-- A base URL that is one is saved, unless the file cannot be written. -/
theorem saves (hurl : Url.isHttp (Text.trimmed given) = true)
    (hsaved : ∀ cause, l.concluded ≠ .ok (.failed (.unsaved cause))) :
    l.concluded = .ok (.reported (.settings (Text.trimmed given) config.settingsPath true)) ∧
      l.fileAfter = some (.text (Settings.fileText ⟨Text.trimmed given⟩)) := by
  have hfiles := l.view_ran World.ignoresLines_files
  have hrun := run_conclude_setUrl hopens hcommand
  rcases hsave : (((l.invocation.context config l.start).session.setBaseUrl
    (Text.trimmed given)).save.save World.host.files
      (l.invocation.context config l.start).config.settingsPath).run l.started with ⟨tried, w⟩
  rw [Command.saveUrl] at hrun
  dsimp only at hrun
  rw [if_pos hurl, World.run_bind hsave] at hrun
  cases tried with
  | error cause => exact absurd (congrArg Prod.fst hrun) (hsaved cause)
  | ok =>
    have hkept := Settings.content?_save (congrArg Prod.fst hsave)
    rw [hsave] at hkept
    rw [hrun] at hfiles
    refine ⟨congrArg Prod.fst hrun, ?_⟩
    rw [fileAfter, hfiles]
    exact hkept

theorem rejects (hspares : l.SparesFile) (hurl : Url.isHttp (Text.trimmed given) = false) :
    l.concluded = .ok (.failed (.badUrl (Text.trimmed given))) ∧ l.fileAfter = l.fileBefore := by
  have hrun : (l.invocation.conclude World.host l.env).run l.start =
      (.ok (.failed (.badUrl (Text.trimmed given))), l.started) := by
    rw [run_conclude_setUrl hopens hcommand, Command.saveUrl]
    dsimp only
    rw [if_neg (by simp [hurl])]
    rfl
  refine ⟨congrArg Prod.fst hrun, ?_⟩
  have hfiles := l.view_ran World.ignoresLines_files
  rw [hrun] at hfiles
  rw [fileAfter, hfiles, content?_started hspares]

end

/-! ## Histories -/

/-- What the settings file holds after the run, if it held this before. -/
def left (kept : Option Content) (l : Launch config) : Option Content :=
  match l.savedUrl? with
  | some url => some (.text (Settings.fileText ⟨url⟩))
  | none => kept

/-- The base URL that the latest of the runs saved, if one of them did. -/
def latestUrl? (runs : List (Launch config)) : Option String := runs.reverse.findSome? savedUrl?

/-- Nothing comes between the run and the settings file: its log spares the file, and the file is
written where the run saves a base URL. -/
structure IsUndisturbed (l : Launch config) : Prop where
  spares : l.SparesFile
  writes : ∀ cause, l.concluded ≠ .ok (.failed (.unsaved cause))

/-- Runs one after another: the first one finds this in the settings file, and every other one what
the run before it left there. -/
inductive Follow : Option Content → List (Launch config) → Prop
  | nil (kept : Option Content) : Follow kept []
  | cons {l : Launch config} {rest : List (Launch config)} :
    Follow l.fileAfter rest → Follow l.fileBefore (l :: rest)

theorem savedUrl?_eq_none (hcommand : ∀ given, l.invocation.command ≠ .setUrl given) :
    l.savedUrl? = none := by
  unfold savedUrl?
  split
  next given h => exact absurd h (hcommand given)
  next => rfl

theorem savedUrl?_of_setUrl {given : String} (hcommand : l.invocation.command = .setUrl given) :
    l.savedUrl? = if l.ran.1 = 0 then some (Text.trimmed given) else none := by
  unfold savedUrl?
  rw [hcommand]

theorem savedUrl?_of_code_ne_zero (h : l.ran.1 ≠ 0) : l.savedUrl? = none := by
  unfold savedUrl?
  split
  next => rw [if_neg h]
  next => rfl

theorem fileAfter_eq_left (h : l.IsUndisturbed) : l.fileAfter = left l.fileBefore l := by
  by_cases hopens : l.Opens
  · by_cases hcommand : ∃ given, l.invocation.command = .setUrl given
    · obtain ⟨given, hcommand⟩ := hcommand
      rw [left, savedUrl?_of_setUrl hcommand]
      cases hurl : Url.isHttp (Text.trimmed given) with
      | true =>
        obtain ⟨hconcluded, hafter⟩ := saves hopens hcommand hurl h.writes
        rw [l.code_eq hconcluded, hafter]
        rfl
      | false =>
        obtain ⟨hconcluded, hafter⟩ := rejects hopens hcommand h.spares hurl
        rw [l.code_eq hconcluded, hafter]
        rfl
    · -- every other command, whether it succeeds or not
      have hother := not_exists.1 hcommand
      rw [left, savedUrl?_eq_none hother, fileAfter_eq hopens hother h.spares]
  · obtain ⟨hcode, -, hafter⟩ := givesUp h.spares hopens
    rw [left, savedUrl?_of_code_ne_zero (by rw [hcode]; decide), hafter]

/-- Many runs: what a run finds is what the runs before it made of the file. -/
theorem fileBefore_eq {initial : Option Content} {before after : List (Launch config)}
    (hfollow : Follow initial (before ++ l :: after)) (h : ∀ k ∈ before, k.IsUndisturbed) :
    l.fileBefore = before.foldl left initial := by
  -- the earliest run is taken off, so what the file holds at first is what this one left
  induction before generalizing initial with
  | nil =>
    cases hfollow
    rfl
  | cons k rest ih =>
    cases hfollow with
    | cons hrest =>
      rw [ih hrest fun k' hk' => h k' (List.mem_cons_of_mem _ hk'), List.foldl_cons,
        fileAfter_eq_left (h k List.mem_cons_self)]

theorem latestUrl?_cons (k : Launch config) (rest : List (Launch config)) :
    latestUrl? (k :: rest) = (latestUrl? rest).or k.savedUrl? := by
  simp [latestUrl?, List.findSome?_append]

/-- The settings in the file are the latest that were saved, or else the first ones. -/
theorem inContent?_foldl_left (runs : List (Launch config)) (initial : Option Content) :
    Settings.inContent? (runs.foldl left initial) =
      ((latestUrl? runs).map Settings.mk).or (Settings.inContent? initial) := by
  induction runs generalizing initial with
  | nil => rfl
  | cons k rest ih =>
    rw [List.foldl_cons, ih, latestUrl?_cons]
    cases hlatest : latestUrl? rest with
    | some url => rfl
    | none =>
      cases hsaved : k.savedUrl? with
      | none => simp [left, hsaved]
      | some url => simp [left, hsaved, Settings.inContent?_fileText]

theorem urlWith_foldl_left (l : Launch config) (runs : List (Launch config))
    (initial : Option Content) :
    l.urlWith (runs.foldl left initial) = l.invocation.options.baseUrl.getD
      ((latestUrl? runs).getD
        (((Settings.inContent? initial).map (·.baseUrl)).getD config.service.baseUrl)) := by
  rw [urlWith, inContent?_foldl_left]
  cases latestUrl? runs <;> rfl

theorem isUndisturbed_of_success (hspares : l.SparesFile) (hcode : l.ran.1 = 0) :
    l.IsUndisturbed := by
  refine ⟨hspares, fun cause hfailed => ?_⟩
  rw [l.code_eq hfailed] at hcode
  cases hcode

end Launch

/-- The runs of a history, for whatever the settings file holds at first, and whatever the commands
do and the servers answer.

A run whose log cannot be opened is given up. It asks for nothing, saves nothing, and leaves the file
as it was. Every other run that is not told to save a base URL works with the one of its option, else
with the latest one that was saved, else with the one in the first settings file if that can be read,
else with the configured one; and it leaves the file as it was. A run that is told to save a base URL
saves it, without the white space around it, if it starts with a scheme; if not, it fails and leaves
the file as it was. -/
theorem settings_over_runs {config : Config} {initial : Option Content} {l : Launch config}
    {before after : List (Launch config)} (hfollow : Launch.Follow initial (before ++ l :: after))
    (h : ∀ k ∈ before ++ [l], k.IsUndisturbed) :
    (¬ l.Opens → l.ran.1 = Host.abortCode ∧ l.ran.2.traffic = l.start.traffic ∧
      l.savedUrl? = none ∧ l.fileAfter = l.fileBefore) ∧
    (l.Opens → (∀ given, l.invocation.command ≠ .setUrl given) →
      l.WorksWith (l.invocation.options.baseUrl.getD ((Launch.latestUrl? before).getD
        (((Settings.inContent? initial).map (·.baseUrl)).getD config.service.baseUrl))) ∧
      l.fileAfter = l.fileBefore) ∧
    (l.Opens → ∀ given, l.invocation.command = .setUrl given →
      (Url.isHttp (Text.trimmed given) = true → l.ran.1 = 0 ∧
        l.savedUrl? = some (Text.trimmed given) ∧
        l.fileAfter = some (.text (Settings.fileText ⟨Text.trimmed given⟩))) ∧
      (Url.isHttp (Text.trimmed given) = false → l.ran.1 = 1 ∧ l.savedUrl? = none ∧
        l.fileAfter = l.fileBefore)) := by
  have hl : l.IsUndisturbed := h l (by simp)
  have hbefore := Launch.fileBefore_eq hfollow fun k hk => h k (List.mem_append_left _ hk)
  refine ⟨fun hunopened => ?_, fun hopens hcommand => ⟨?_, ?_⟩,
    fun hopens given hcommand => ⟨fun hurl => ?_, fun hurl => ?_⟩⟩
  · obtain ⟨hcode, htraffic, hafter⟩ := Launch.givesUp hl.spares hunopened
    exact ⟨hcode, htraffic, Launch.savedUrl?_of_code_ne_zero (by rw [hcode]; decide), hafter⟩
  · have hworks := Launch.worksWith hopens hcommand hl.spares
    rwa [hbefore, Launch.urlWith_foldl_left] at hworks
  · exact Launch.fileAfter_eq hopens hcommand hl.spares
  · obtain ⟨hconcluded, hafter⟩ := Launch.saves hopens hcommand hurl hl.writes
    have hcode : l.ran.1 = 0 := l.code_eq hconcluded
    exact ⟨hcode, by rw [Launch.savedUrl?_of_setUrl hcommand, if_pos hcode], hafter⟩
  · obtain ⟨hconcluded, hafter⟩ := Launch.rejects hopens hcommand hl.spares hurl
    have hcode : l.ran.1 = 1 := l.code_eq hconcluded
    exact ⟨hcode, Launch.savedUrl?_of_code_ne_zero (by rw [hcode]; decide), hafter⟩

namespace Sample

/-- A host without files and without a network. -/
def bare : World := .fresh (Files.emptyAt []) .silent ⟨0⟩

def logged : Config :=
  { Config.builtin with logging := { Config.builtin.logging with directory := some "logs" } }

/-- A run that saves a base URL. -/
def saving : Launch logged where
  words := ["settings", "set-url", " http://a "]
  env := [("PAAS_LOGGING__LOG_DIR", "logs")]
  start := bare
  invocation := ⟨.setUrl " http://a ", .unset⟩
  understood := by decide +kernel
  loaded := by decide +kernel

/-- A later run that shows the settings. -/
def showing : Launch logged where
  words := ["settings", "show"]
  env := [("PAAS_LOGGING__LOG_DIR", "logs")]
  start := .fresh saving.ran.2.files .silent ⟨1000⟩
  invocation := ⟨.showSettings, .unset⟩
  understood := by decide +kernel
  loaded := by decide +kernel

/-- Variables that put the log where the settings are. -/
def logAtSettings : Environment :=
  [("PAAS_SETTINGS_PATH", "state/paas.log"), ("PAAS_LOGGING__LOG_DIR", "state"),
    ("PAAS_LOGGING__ROTATION", "never")]

end Sample

/-- What one run saves, the next one works with. -/
theorem shown_after_saving : Sample.showing.WorksWith "http://a" ∧
    Sample.showing.fileAfter = some (.text (Settings.fileText ⟨"http://a"⟩)) := by
  have hpassed : Sample.showing.fileBefore = Sample.saving.fileAfter := by decide +kernel
  have hfollow :
      Launch.Follow Sample.saving.fileBefore ([Sample.saving] ++ Sample.showing :: []) := by
    refine .cons ?_
    rw [← hpassed]
    exact .cons (.nil _)
  have hundisturbed : ∀ k ∈ [Sample.saving] ++ [Sample.showing], k.IsUndisturbed := by
    have hsaving := Launch.isUndisturbed_of_success
      (by decide +kernel : Sample.saving.SparesFile) (by decide +kernel)
    have hshowing := Launch.isUndisturbed_of_success
      (by decide +kernel : Sample.showing.SparesFile) (by decide +kernel)
    simp [hsaving, hshowing]
  have hcommand : Sample.showing.invocation.command = .showSettings := rfl
  have hlatest : Launch.latestUrl? [Sample.saving] = some "http://a" := by decide +kernel
  have hkept : Sample.showing.fileBefore = some (.text (Settings.fileText ⟨"http://a"⟩)) := by
    decide +kernel
  have hopens : Sample.showing.Opens := by decide +kernel
  obtain ⟨hworks, hafter⟩ := (settings_over_runs hfollow hundisturbed).2.1 hopens fun given => by
    rw [hcommand]
    exact nofun
  rw [hlatest] at hworks
  exact ⟨hworks, hafter.trans hkept⟩

/-- A log that is kept at the place of the settings makes a file there, in a run that only shows the
settings. -/
theorem settings_file_made_by_log :
    Sample.bare.files.content? "state/paas.log" = none ∧
    let ran := (Program.run World.host Sample.logAtSettings ["settings", "show"]).run Sample.bare
    ran.1 = 0 ∧ ran.2.files.content? "state/paas.log" = some (.text "") := by
  decide +kernel

end PlanCourier

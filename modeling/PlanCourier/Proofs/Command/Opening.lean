import PlanCourier.Proofs.Command.Frame
import PlanCourier.Proofs.Config.Layers

/-!
# How a run begins

A run loads its configuration and then opens its log. Without a configuration it comes to a fault;
without its log it is given up, and the code it exits with is none that a conclusion has. Else the
command is carried out, with the configuration and with the settings that are kept.

Main statements:

- `run_conclude_of_fault`, `run_conclude_of_unopened` and `run_conclude_of_opened`: the three ways
  that a run may take;
- `conclude_eq_error_iff`: when a run is given up;
- `run_of_error` and `run_of_ok`: what is written in the end.
-/

namespace PlanCourier

open World (Keeps)

namespace Invocation

variable {env : Environment} {i : Invocation} {w : World} {config : Config}

/-! ## The configuration -/

theorem run_loadConfig {loaded : Except LoadFault Config}
    (h : ((i.loadConfig World.host env).run w).1 = loaded) :
    (i.loadConfig World.host env).run w = (loaded, w) :=
  -- nothing at all is changed, so the view may show everything
  Prod.ext h ((Keeps.loadConfig env i : Keeps id _).kept w)

theorem fault_of_loadConfig (h : ((i.loadConfig World.host env).run w).1 = .ok config) :
    config.fault? = none := by
  unfold loadConfig at h
  cases hpath : i.options.config with
  | some path =>
    simp only [hpath, Config.run_ofFile World.reads_host] at h
    exact (Config.ofReadLayers_eq_ok.1 h).2
  | none =>
    simp only [hpath, Config.run_ofDirectory World.reads_host] at h
    exact (Config.ofReadLayers_eq_ok.1 h).2

/-! ## The log -/

/-- Whether the log can be opened, and the host after that was tried. -/
def opened (config : Config) (w : World) : Except LogFile.Fault Unit × World :=
  (LogFile.start World.host.files config.logging w.clock).run w

/-- The host once the log is opened, when the command begins. -/
def started (config : Config) (w : World) : World := (opened config w).2

def context (i : Invocation) (config : Config) (w : World) : CommandContext :=
  ⟨config, Session.start config.service.baseUrl
    ((Settings.load Settings.syntaxWording World.host.files config.settingsPath).run
      (started config w)).1 i.options.baseUrl⟩

theorem view_started {view : World → β} (h : World.IgnoresFiles view) (config : Config)
    (w : World) : view (started config w) = view w :=
  (Keeps.startLog h config.logging w.clock).kept w

theorem opened_eq {tried : Except LogFile.Fault Unit} (h : (opened config w).1 = tried) :
    (LogFile.start World.host.files config.logging w.clock).run w = (tried, started config w) :=
  Prod.ext h rfl

/-! ## The ways of a run -/

theorem run_conclude_of_fault {fault : LoadFault}
    (h : ((i.loadConfig World.host env).run w).1 = .error fault) :
    (i.conclude World.host env).run w = (.ok (.failed (.config fault)), w) :=
  World.run_bind (run_loadConfig h)

theorem run_executeWith_of_unopened {fault : LogFile.Fault}
    (hlog : (opened config w).1 = .error fault) :
    (i.executeWith World.host config).run w = (.error fault, started config w) := by
  rw [executeWith, World.run_bind (World.now_host w), World.run_bind (opened_eq hlog)]
  rfl

theorem run_executeWith_of_opened (hlog : (opened config w).1 = .ok ()) :
    (i.executeWith World.host config).run w =
      let ran := (i.command.execute World.host (i.context config w) i.options.json).run
        (started config w)
      (.ok ran.1, ran.2) := by
  rw [executeWith, World.run_bind (World.now_host w), World.run_bind (opened_eq hlog)]
  rfl

theorem run_conclude_of_config (h : ((i.loadConfig World.host env).run w).1 = .ok config) :
    (i.conclude World.host env).run w = (i.executeWith World.host config).run w :=
  World.run_bind (run_loadConfig h)

theorem run_conclude_of_unopened {fault : LogFile.Fault}
    (h : ((i.loadConfig World.host env).run w).1 = .ok config)
    (hlog : (opened config w).1 = .error fault) :
    (i.conclude World.host env).run w = (.error fault, started config w) :=
  (run_conclude_of_config h).trans (run_executeWith_of_unopened hlog)

/-- With a configuration and a log the command is carried out, and its conclusion is the run's. -/
theorem run_conclude_of_opened (h : ((i.loadConfig World.host env).run w).1 = .ok config)
    (hlog : (opened config w).1 = .ok ()) :
    (i.conclude World.host env).run w =
      let ran := (i.command.execute World.host (i.context config w) i.options.json).run
        (started config w)
      (.ok ran.1, ran.2) :=
  (run_conclude_of_config h).trans (run_executeWith_of_opened hlog)

/-- A run is given up just where it has a configuration and its log cannot be opened. -/
theorem conclude_eq_error_iff {fault : LogFile.Fault} :
    ((i.conclude World.host env).run w).1 = .error fault ↔
      ∃ config, ((i.loadConfig World.host env).run w).1 = .ok config ∧
        (opened config w).1 = .error fault := by
  cases hloaded : ((i.loadConfig World.host env).run w).1 with
  | error cause =>
    rw [run_conclude_of_fault hloaded]
    simp
  | ok config =>
    cases hlog : (opened config w).1 with
    | error cause =>
      rw [run_conclude_of_unopened hloaded hlog]
      simp [hlog]
    | ok =>
      rw [run_conclude_of_opened hloaded hlog]
      simp [hlog]

/-! ## The end of a run -/

theorem run_of_error {fault : LogFile.Fault}
    (h : ((i.conclude World.host env).run w).1 = .error fault) :
    (i.run World.host env).run w =
      (World.host.abort ("initializing rolling file appender failed: " ++ fault.message)).run
        ((i.conclude World.host env).run w).2 :=
  World.run_bind (Prod.ext h rfl)

theorem run_of_ok {c : Conclusion} (h : ((i.conclude World.host env).run w).1 = .ok c) :
    (i.run World.host env).run w =
      (c.print World.host i.options.json).run ((i.conclude World.host env).run w).2 :=
  World.run_bind (Prod.ext h rfl)

end Invocation

/-! ## A host to look at -/

namespace Sample

/-- A host without a network. -/
def offline : World := .fresh (Files.emptyAt ["work"]) .silent ⟨0⟩

/-- Without files and variables, the configuration is the built-in one. -/
theorem loadConfig_offline (command : Command) (json : Bool) :
    ((Invocation.loadConfig World.host [] ⟨command, ⟨json, none, none⟩⟩).run offline).1 =
      .ok .builtin := by
  have hfile (name : String) (h : offline.files.readNearest name = none) :
      Config.fileLayer (offline.files.readNearest name) = some (.object []) := by
    rw [h]
    rfl
  have hlayers : Config.ofLayers? [.object [], .object [], .object []] = some .builtin := by rfl
  have hfault : Config.builtin.fault? = none := by rfl
  have hread : Config.ofReadLayers "Failed to extract configuration from figment"
      (some [.object [], .object [], .object []]) = .ok .builtin :=
    Config.ofReadLayers_eq_ok.2 ⟨hlayers, hfault⟩
  show ((Config.ofDirectory World.host.files [] Config.directory).run offline).1 = _
  rw [Config.run_ofDirectory World.reads_host, hfile _ (by decide), hfile _ (by decide)]
  exact hread

end Sample

end PlanCourier

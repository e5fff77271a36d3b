import PlanCourier.Config.Check
import PlanCourier.Config.Variable
import PlanCourier.Files.Access
import PlanCourier.Yaml.Reader

/-!
# Layers of configuration

A configuration is put together from layers: the built-in values, the project's file, a local file
beside it, and environment variables, each of which overrides those before. Sections are merged
member by member, anything else is replaced as a whole. A file that is not there adds nothing; one
with a relative path is there if the current directory or one above it has it.

Main statement: `merge_empty`, an empty layer changes nothing.
-/

namespace PlanCourier

mutual

/-- Two values merged: the second one, but objects member by member. -/
def Json.merge : Json → Json → Json
  | .object below, .object above => .object (Json.mergeMembers below above)
  | _, above => above

/-- The members below with those above merged into them. -/
def Json.mergeMembers (below : List (String × Json)) : List (String × Json) → List (String × Json)
  | [] => below
  | (name, v) :: rest =>
    let merged := match below.lookup name with
      | some old => Json.merge old v
      | none => v
    Json.mergeMembers (Json.insertMember name merged below) rest

end

theorem Json.merge_empty (ms : List (String × Json)) :
    Json.merge (.object ms) (.object []) = .object ms := by
  simp [Json.merge, Json.mergeMembers]

inductive LoadFault where
  /-- A layer cannot be read, or the layers do not fit a configuration. -/
  | unfit (message : String)
  | unusable (fault : ConfigFault)
  deriving DecidableEq, Repr

def LoadFault.message : LoadFault → String
  | .unfit message => message
  | .unusable fault => fault.message

/-- Environment variables with their texts. -/
abbrev Environment := List (String × String)

namespace Config

/-- The start of the names of this program's environment variables. -/
def variableMark : String := "PAAS_"

def directory : String := ".paas"

/-- The layer of a file, for what reading it gives if there is one. -/
def fileLayer : Option (Except FileFault String) → Option Json
  | none => some (.object [])
  | some (.ok s) => Yaml.read? s
  | some (.error _) => none

def environmentLayer (env : Environment) : Json :=
  (env.filterMap fun (name, text) => Variable.setting variableMark name text).foldl Json.merge
    (.object [])

/-- The fields of the sections in their order, and whether a field is a choice of words. -/
def sections : List (String × List (String × Bool)) :=
  [("service", [("base_url", false), ("default_package", false), ("adaptor", false),
      ("request_timeout_secs", false)]),
    ("poll", [("interval_ms", false), ("max_attempts", false)]),
    ("catalog", [("api_url", false)]),
    ("logging", [("level", false), ("format", true), ("log_dir", false), ("rotation", true)])]

/-- A choice, of which only the first member counts where it is given as an object. -/
def chosen : Json → Json
  | .object (m :: _) => .object [m]
  | v => v

/-- The part of a section that its record is read from: a list loses the items beyond the fields,
and a choice the members beyond its first one. -/
def significant (fields : List (String × Bool)) : Json → Json
  | .list vs =>
    .list (List.zipWith (fun field v => if field.2 then chosen v else v) fields vs)
  | .object ms =>
    .object (ms.map fun (name, v) => (name, if fields.lookup name = some true then chosen v else v))
  | v => v

/-- `significant` for the section of this name; what is no section stays as it is. -/
def significantIn (name : String) (v : Json) : Json :=
  match sections.lookup name with
  | some fields => significant fields v
  | none => v

/-- The configuration that merged layers describe. -/
def ofLayers? (layers : List Json) : Option Config :=
  match layers.foldl Json.merge builtin.toJson with
  | .object ms => (decode (.object (ms.map fun (name, v) => (name, significantIn name v)))).toOption
  | _ => none

/-- The configuration of layers that are all there. -/
def ofReadLayers (message : String) (layers : Option (List Json)) : Except LoadFault Config :=
  match layers.bind ofLayers? with
  | none => .error (.unfit message)
  | some c =>
    match c.check with
    | .error fault => .error (.unusable fault)
    | .ok c => .ok c

variable {m : Type → Type} [Monad m]

/-- The configuration of a project's directory and the environment. -/
def ofDirectory (a : FileAccess m) (env : Environment) (path : String) :
    m (Except LoadFault Config) := do
  let project ← a.readNearest (Path.join path "config.yaml")
  let more ← a.readNearest (Path.join path "local.yaml")
  return ofReadLayers "Failed to extract configuration from figment" do
    return [← fileLayer project, ← fileLayer more, environmentLayer env]

def ofFile (a : FileAccess m) (path : String) : m (Except LoadFault Config) := do
  let file ← a.readNearest path
  return ofReadLayers ("Failed to load config from " ++ path) ((fileLayer file).map ([·]))

end Config

end PlanCourier

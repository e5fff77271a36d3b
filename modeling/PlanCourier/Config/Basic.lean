import PlanCourier.Json.Record
import PlanCourier.Solve.Poll

/-!
# Configuration

The configuration of a client in its sections, each field with a built-in value, and how it is read
from and written as a record.
-/

namespace PlanCourier

/-- Where the planning service is and how it is used. -/
structure ServiceSection where
  baseUrl : String
  defaultPackage : String
  /-- The adaptor the service is to apply to results. -/
  adaptor : String
  /-- How many seconds a request may take. -/
  requestTimeout : UInt64
  deriving DecidableEq, Repr

structure PollSection where
  /-- The delay before a check in milliseconds. -/
  interval : UInt64
  maxAttempts : UInt32
  deriving DecidableEq, Repr

structure CatalogSection where
  apiUrl : String
  deriving DecidableEq, Repr

inductive LogFormat where
  | json
  | pretty
  deriving DecidableEq, Repr

/-- How often a new log file is begun. -/
inductive Rotation where
  | daily
  | hourly
  | never
  deriving DecidableEq, Repr

structure LoggingSection where
  level : String
  format : LogFormat
  /-- The directory of log files, if there are to be any. -/
  directory : Option String
  rotation : Rotation
  deriving DecidableEq, Repr

/-- A configuration. -/
structure Config where
  service : ServiceSection
  poll : PollSection
  catalog : CatalogSection
  logging : LoggingSection
  /-- The file of the user's settings. -/
  settingsPath : String
  deriving DecidableEq, Repr

namespace ServiceSection

def builtin : ServiceSection :=
  ⟨"http://localhost:5001", "lama-first", "planning_editor_adaptor", 30⟩

def decode : Decode ServiceSection :=
  Decode.record "ServiceConfig" 4 fun s =>
    ServiceSection.mk <$> s.defaulted 0 "base_url" Decode.text builtin.baseUrl
      <*> s.defaulted 1 "default_package" Decode.text builtin.defaultPackage
      <*> s.defaulted 2 "adaptor" Decode.text builtin.adaptor
      <*> s.defaulted 3 "request_timeout_secs" Decode.word64 builtin.requestTimeout

def toJson (s : ServiceSection) : Json :=
  .ofMembers [("base_url", .text s.baseUrl), ("default_package", .text s.defaultPackage),
    ("adaptor", .text s.adaptor), ("request_timeout_secs", .ofNat s.requestTimeout.toNat)]

end ServiceSection

namespace PollSection

def builtin : PollSection := ⟨5000, 5⟩

def decode : Decode PollSection :=
  Decode.record "PollConfig" 2 fun s =>
    PollSection.mk <$> s.defaulted 0 "interval_ms" Decode.word64 builtin.interval
      <*> s.defaulted 1 "max_attempts" Decode.word32 builtin.maxAttempts

def toJson (s : PollSection) : Json :=
  .ofMembers
    [("interval_ms", .ofNat s.interval.toNat), ("max_attempts", .ofNat s.maxAttempts.toNat)]

def policy (s : PollSection) : PollPolicy := PollPolicy.of s.interval s.maxAttempts

end PollSection

namespace CatalogSection

def builtin : CatalogSection := ⟨"https://api.planning.domains/json/classical/"⟩

def decode : Decode CatalogSection :=
  Decode.record "CatalogConfig" 1 fun s =>
    CatalogSection.mk <$> s.defaulted 0 "api_url" Decode.text builtin.apiUrl

def toJson (s : CatalogSection) : Json := .ofMembers [("api_url", .text s.apiUrl)]

end CatalogSection

def LogFormat.words : List (String × LogFormat) := [("json", .json), ("pretty", .pretty)]

def LogFormat.text : LogFormat → String
  | .json => "json"
  | .pretty => "pretty"

def Rotation.words : List (String × Rotation) :=
  [("daily", .daily), ("hourly", .hourly), ("never", .never)]

/-- The word for how often a log file is begun. -/
def Rotation.text : Rotation → String
  | .daily => "daily"
  | .hourly => "hourly"
  | .never => "never"

namespace LoggingSection

def builtin : LoggingSection := ⟨"warn", .pretty, none, .daily⟩

/-- The path of a file or directory. -/
def path : Decode String
  | .text s => .ok s
  | v => .error (.kind v "path string")

def decode : Decode LoggingSection :=
  Decode.record "LoggingConfig" 4 fun s =>
    LoggingSection.mk <$> s.defaulted 0 "level" Decode.text builtin.level
      <*> s.defaulted 1 "format" (Decode.word LogFormat.words) builtin.format
      <*> s.optional 2 "log_dir" path
      <*> s.defaulted 3 "rotation" (Decode.word Rotation.words) builtin.rotation

def toJson (s : LoggingSection) : Json :=
  .ofMembers [("level", .text s.level), ("format", .text s.format.text),
    ("log_dir", .ofOption .text s.directory), ("rotation", .text s.rotation.text)]

end LoggingSection

namespace Config

def builtin : Config :=
  ⟨.builtin, .builtin, .builtin, .builtin, ".paas/settings.json"⟩

def decode : Decode Config :=
  Decode.record "Config" 5 fun s =>
    Config.mk <$> s.defaulted 0 "service" ServiceSection.decode .builtin
      <*> s.defaulted 1 "poll" PollSection.decode .builtin
      <*> s.defaulted 2 "catalog" CatalogSection.decode .builtin
      <*> s.defaulted 3 "logging" LoggingSection.decode .builtin
      <*> s.defaulted 4 "settings_path" LoggingSection.path builtin.settingsPath

def toJson (c : Config) : Json :=
  .ofMembers [("service", c.service.toJson), ("poll", c.poll.toJson),
    ("catalog", c.catalog.toJson), ("logging", c.logging.toJson),
    ("settings_path", .text c.settingsPath)]

end Config

end PlanCourier

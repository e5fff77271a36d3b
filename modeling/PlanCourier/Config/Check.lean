import PlanCourier.Config.Basic
import PlanCourier.Text.LowerCase
import PlanCourier.Url

/-!
# Which configurations are usable

The conditions on a configuration in the order in which they are checked, each with the fault of
its violation.

Main statements:

- `check_baseUrl`: the trimmed base URL of an accepted configuration starts with a scheme;
- `check_apiUrl`: so does the address of the collections, just as it stands.
-/

namespace PlanCourier

inductive ConfigFault where
  | emptyBaseUrl
  | badBaseUrl (url : String)
  | badCatalogUrl (url : String)
  | emptyDefaultPackage
  | noAttempts
  | noInterval
  | noTimeout
  | badLevel (level : String)
  deriving DecidableEq, Repr

def ConfigFault.levelMessage (level : String) : String := "Invalid log level: " ++ level

def ConfigFault.message : ConfigFault → String
  | .emptyBaseUrl => "Service base URL cannot be empty"
  | .badBaseUrl url => "Invalid base URL: " ++ url ++ ". Must start with http:// or https://"
  | .badCatalogUrl url => "Invalid catalog URL: " ++ url ++ ". Must start with http:// or https://"
  | .emptyDefaultPackage => "Default package cannot be empty"
  | .noAttempts => "Invalid max_attempts: 0. Must be at least 1"
  | .noInterval => "Invalid poll interval: 0ms. Must be positive"
  | .noTimeout => "Invalid request timeout: 0s. Must be positive"
  | .badLevel level =>
    ConfigFault.levelMessage level ++ ". Must be one of: trace, debug, info, warn, error"

inductive LogLevel where
  | trace
  | debug
  | info
  | warn
  | error
  deriving DecidableEq, Repr

namespace LogLevel

def ofText? (s : String) : Option LogLevel :=
  [("trace", trace), ("debug", debug), ("info", info), ("warn", warn), ("error", error)].lookup
    (Text.lowered s)

def name : LogLevel → String
  | .trace => "TRACE"
  | .debug => "DEBUG"
  | .info => "INFO"
  | .warn => "WARN"
  | .error => "ERROR"

end LogLevel

namespace Config

def fault? (c : Config) : Option ConfigFault :=
  let base := Text.trimmed c.service.baseUrl
  if base.isEmpty then some .emptyBaseUrl
  else if !Url.isHttp base then some (.badBaseUrl base)
  else if !Url.isHttp c.catalog.apiUrl then some (.badCatalogUrl c.catalog.apiUrl)
  else if Text.isAllBlank c.service.defaultPackage then some .emptyDefaultPackage
  else if c.service.requestTimeout = 0 then some .noTimeout
  else if c.poll.maxAttempts = 0 then some .noAttempts
  else if c.poll.interval = 0 then some .noInterval
  else if (LogLevel.ofText? c.logging.level).isNone then some (.badLevel c.logging.level)
  else none

def check (c : Config) : Except ConfigFault Config :=
  match c.fault? with
  | some f => .error f
  | none => .ok c

theorem check_baseUrl {c : Config} (h : c.fault? = none) :
    Url.isHttp (Text.trimmed c.service.baseUrl) = true := by
  unfold fault? at h
  dsimp only at h
  split at h
  next => cases h
  next =>
    split at h
    next => cases h
    next hb => simpa using hb

theorem check_apiUrl {c : Config} (h : c.fault? = none) :
    Url.isHttp c.catalog.apiUrl = true := by
  unfold fault? at h
  dsimp only at h
  split at h
  next => cases h
  next =>
    split at h
    next => cases h
    next =>
      split at h
      next => cases h
      next hb => simpa using hb

end Config

end PlanCourier

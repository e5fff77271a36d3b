import PlanCourier.Package.Manifest
import PlanCourier.Settings

/-!
# Sessions

What is carried from one solve to the next: the base URL of the service, the packages fetched from
it, and the documents used last. The packages belong to the service they came from, so they are
dropped when the base URL becomes another one.

Main statements:

- `packages_setBaseUrl`: packages stay just where the base URL does;
- `load_save`: a session's own settings do not change it.
-/

namespace PlanCourier

/-- The state between solves. -/
structure Session where
  baseUrl : String
  packages : Option Listing
  lastDomain : Option String
  lastProblem : Option String
  deriving DecidableEq, Repr

namespace Session

/-- A session with a service and nothing else. -/
def fresh (url : String) : Session := ⟨url, none, none, none⟩

/-- The session with a service at this address. -/
def setBaseUrl (s : Session) (url : String) : Session :=
  { s with baseUrl := url, packages := if url = s.baseUrl then s.packages else none }

/-- The session with packages that were fetched from its service. -/
def setPackages (s : Session) (l : Listing) : Session := { s with packages := some l }

/-- The session after a solve of these documents. -/
def remember (s : Session) (domain problem : String) : Session :=
  { s with lastDomain := some domain, lastProblem := some problem }

/-- The part of the session that outlives a run. -/
def save (s : Session) : Settings := ⟨s.baseUrl⟩

/-- The session with settings of an earlier run. -/
def load (s : Session) (settings : Settings) : Session := s.setBaseUrl settings.baseUrl

/-- The session after what a settings file gave, and whether it gave settings. -/
def restore (s : Session) (kept : Except SettingsFault (Option Settings)) :
    Except SettingsFault Bool × Session :=
  match kept with
  | .error e => (.error e, s)
  | .ok none => (.ok false, s)
  | .ok (some settings) => (.ok true, s.load settings)

/-- The session a run starts with: the address the user names for this run, else the kept one, else
the configured one. Settings that cannot be read are as good as none. -/
def start (configured : String) (kept : Except SettingsFault (Option Settings))
    (named : Option String) : Session :=
  let s := ((fresh configured).restore kept).2
  match named with
  | some url => s.setBaseUrl url
  | none => s

theorem packages_setBaseUrl (s : Session) (url : String) :
    (s.setBaseUrl url).packages = if url = s.baseUrl then s.packages else none := rfl

theorem load_save (s : Session) : s.load s.save = s := by
  simp [load, save, setBaseUrl]

end Session

end PlanCourier

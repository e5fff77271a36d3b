import PlanCourier.Command.Solve
import PlanCourier.Validation

/-!
# Carrying out commands

What each command does on a host, from its configuration and session to its conclusion.

Main statement: `invalidFault_eq_none`, a validation run is a success just when every problem is
valid.
-/

namespace PlanCourier

namespace Collection

/-- Whether a word means the collection: its name in any case, or its id. -/
def isMeant (wanted : String) (c : Collection) : Bool :=
  Text.sameIgnoringAsciiCase c.name wanted || c.id.any fun id => Text.integerText id == wanted

end Collection

namespace Command

variable {m : Type → Type} [Monad m]

/-- The conclusion of a command that asks the collections. -/
def ofService (report : α → Report) : Except ServiceFault α → Conclusion
  | .ok a => .reported (report a)
  | .error fault => .failed (.service fault)

/-- The conclusion of a command that asks for packages. -/
def ofCatalog (report : α → Report) : Except SolveFault α → Conclusion
  | .ok a => .reported (report a)
  | .error fault => .failed (.package fault)

def listPackages (h : Host m) (c : CommandContext) : Option String → m Conclusion
  | some name => do
    let service := SolverService.overHttp h.send c.session.baseUrl
    return ofCatalog (.parameters name) (← Catalog.empty.parameters service.listing name).1
  | none => do
    let service := SolverService.overHttp h.send c.session.baseUrl
    return ofCatalog (.packages c.session.baseUrl) (← Catalog.empty.list service.listing).1

def listDomainsOf (service : CollectionService m) (wanted : String) : m Conclusion := do
  match ← Browse.collections service with
  | .error fault => return .failed (.service fault)
  | .ok offered =>
    match offered.find? (·.isMeant wanted) with
    | none => return .failed (.noCollection wanted)
    | some c => return ofService .domains (← Browse.domainsIn service c)

def invalidFault (t : ValidationTally) : Option CommandFault :=
  if t.valid < t.total then some (.invalid t) else none

/-- Validates problems, or the default ones if there are none. -/
def validateProblems (h : Host m) (c : CommandContext) (ids : List Int) : m Conclusion := do
  let service := SolverService.overHttp h.send c.session.baseUrl
  let reports ← Validation.run service.validate (fun _ => return ())
    (if ids.isEmpty then Validation.defaultProblems else ids)
  return ⟨some (.validation ⟨reports⟩), invalidFault ⟨reports⟩⟩

/-- Saves another base URL, which has to be an address of HTTP. -/
def saveUrl (h : Host m) (c : CommandContext) (url : String) : m Conclusion :=
  let url := Text.trimmed url
  if Url.isHttp url then do
    let session := c.session.setBaseUrl url
    match ← session.save.save h.files c.config.settingsPath with
    | .error cause => return .failed (.unsaved cause)
    | .ok () => return .reported (.settings session.baseUrl c.config.settingsPath true)
  else return .failed (.badUrl url)

def execute (h : Host m) (c : CommandContext) (json : Bool) (command : Command) : m Conclusion :=
  let service := CollectionService.overHttp h.send c.config.catalog.apiUrl
  match command with
  | .solve order => order.carryOut h c json
  | .packages name => listPackages h c name
  | .collections => do return ofService .collections (← Browse.collections service)
  | .domains none => do return ofService .domains (← Browse.domains service)
  | .domains (some wanted) => listDomainsOf service wanted
  | .problems domain => do
    return ofService (.problems domain) (← Browse.problems service domain)
  | .validate ids => validateProblems h c ids
  | .showSettings => return .reported (.settings c.session.baseUrl c.config.settingsPath false)
  | .setUrl url => saveUrl h c url

theorem invalidFault_eq_none {t : ValidationTally} :
    invalidFault t = none ↔ ∀ r ∈ t.reports, r.isValid = true := by
  unfold invalidFault ValidationTally.valid ValidationTally.total
  rw [← List.filter_eq_self]
  constructor
  · intro h
    split at h
    next => cases h
    next hn => exact List.filter_sublist.eq_of_length_le (Nat.le_of_not_lt hn)
  · intro h
    rw [h]
    simp

end Command

end PlanCourier

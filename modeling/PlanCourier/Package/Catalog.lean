import PlanCourier.Fault
import PlanCourier.Package.Manifest

/-!
# The catalog of packages

The catalog keeps the last listing it fetched and answers from it; only when it holds none, or when
it is told to, does it ask the service. `resolve` settles the parameters of a solve: the user's
values where the package allows them, declared defaults otherwise.

A catalog is used over any service whose listing is fetched by an action `fetch`; each operation
gives its result and the cache it leaves.
-/

namespace PlanCourier

/-- Named values in order of their names. -/
abbrev Values := List (String × String)

namespace Parameter

/-- Settles the declared parameters one after another: a value of the user is taken if the parameter
accepts it, and a default where the user gives none. -/
def settle (user : Values) : List Parameter → Values → Except SolveFault Values
  | [], settled => .ok settled
  | p :: rest, settled =>
    match user.lookup p.name with
    | some v =>
      if p.accepts v then settle user rest (Json.insertMember p.name v settled)
      else .error (.badParameter p.name v (", ".intercalate p.choiceValues))
    | none =>
      match p.defaultText with
      | some d => settle user rest (Json.insertMember p.name d settled)
      | none => settle user rest settled

/-- The values of the user that no parameter is declared for. -/
def undeclared (ps : List Parameter) (user : Values) : Values :=
  user.filter fun (name, _) => !ps.any (·.name == name)

/-- The values that are sent for the declared parameters and the user's values. -/
def resolve (ps : List Parameter) (user : Values) : Except SolveFault Values :=
  (settle user ps []).map fun settled =>
    (undeclared ps user).foldl (fun vs (name, v) => Json.insertMember name v vs) settled

end Parameter

/-- The listing that was fetched last, if one is held. -/
structure Catalog where
  cache : Option Listing
  deriving DecidableEq, Repr

namespace Catalog

/-- A catalog that holds nothing yet. -/
def empty : Catalog := ⟨none⟩

def invalidate (_ : Catalog) : Catalog := empty

variable {m : Type → Type} [Monad m]

abbrev Fetch (m : Type → Type) := m (Except ServiceFault Listing)

/-- Fetches the listing anew; a failure leaves the catalog as it was. -/
def refresh (fetch : Fetch m) (c : Catalog) : m (Except SolveFault Listing × Catalog) := do
  match ← fetch with
  | .ok l => return (.ok l, ⟨some l⟩)
  | .error e => return (.error (.listing e), c)

/-- The listing that is held, fetched if none is. -/
def index (fetch : Fetch m) (c : Catalog) : m (Except SolveFault Listing × Catalog) :=
  match c.cache with
  | some l => pure (.ok l, c)
  | none => c.refresh fetch

/-- What `f` makes of the listing. -/
def reading (fetch : Fetch m) (c : Catalog) (f : Listing → Except SolveFault α) :
    m (Except SolveFault α × Catalog) := do
  let (l, c) ← c.index fetch
  return (l.bind f, c)

/-- All packages in order of their names. -/
def list (fetch : Fetch m) (c : Catalog) : m (Except SolveFault (List Package) × Catalog) :=
  c.reading fetch fun l => .ok l.sorted

def find (key : String) (l : Listing) : Except SolveFault Package :=
  match l.lookup key with
  | some p => .ok p
  | none => .error (.unknownPackage key)

def package (fetch : Fetch m) (c : Catalog) (key : String) :
    m (Except SolveFault Package × Catalog) :=
  c.reading fetch (find key)

/-- The parameters of the package's solve service. -/
def parameters (fetch : Fetch m) (c : Catalog) (key : String) :
    m (Except SolveFault (List Parameter) × Catalog) :=
  c.reading fetch fun l => (find key l).map Package.solveParameters

/-- The values that are sent to the package for the user's values. -/
def resolve (fetch : Fetch m) (c : Catalog) (key : String) (user : Values) :
    m (Except SolveFault Values × Catalog) :=
  c.reading fetch fun l => (find key l).bind fun p => Parameter.resolve p.solveParameters user

end Catalog

end PlanCourier

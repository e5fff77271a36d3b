import PlanCourier.Collection.Record
import PlanCourier.Fault
import PlanCourier.Text.LowerCase

/-!
# Browsing collections

The records of a collection service in order of their names without regard to case; records of the
same name stay in the order in which the service gave them.

Main statements:

- `byName_perm`: sorting neither loses nor adds a record;
- `mem_membersOf`: the domains of a collection are those of all domains that belong to it.
-/

namespace PlanCourier

/-- A service that lists collections, domains, and the problems of a domain. -/
structure CollectionService (m : Type → Type) where
  collections : m (Except ServiceFault (List Collection))
  domains : m (Except ServiceFault (List DomainEntry))
  problems : Int → m (Except ServiceFault (List ProblemEntry))

namespace Browse

/-- Records in order of their names in lower case; equal names stay in their order. -/
def byName (name : α → String) (xs : List α) : List α :=
  xs.mergeSort fun a b => !decide (Text.lowered (name b) < Text.lowered (name a))

variable {m : Type → Type} [Monad m]

def collections (s : CollectionService m) : m (Except ServiceFault (List Collection)) := do
  return (← s.collections).map (byName Collection.name)

def domains (s : CollectionService m) : m (Except ServiceFault (List DomainEntry)) := do
  return (← s.domains).map (byName DomainEntry.name)

/-- The domains that belong to a collection, of these ones. -/
def membersOf (c : Collection) (ds : List DomainEntry) : List DomainEntry :=
  let ids := c.domainIds
  ds.filter fun d => ids.contains d.id

def domainsIn (s : CollectionService m) (c : Collection) :
    m (Except ServiceFault (List DomainEntry)) := do
  return (← domains s).map (membersOf c)

def problems (s : CollectionService m) (domain : Int) :
    m (Except ServiceFault (List ProblemEntry)) := do
  return (← s.problems domain).map (byName ProblemEntry.name)

theorem byName_perm (name : α → String) (xs : List α) : (byName name xs).Perm xs :=
  List.mergeSort_perm xs _

theorem mem_membersOf {c : Collection} {ds : List DomainEntry} {d : DomainEntry} :
    d ∈ membersOf c ds ↔ d ∈ ds ∧ c.contains d.id = true := by
  simp [membersOf, Collection.contains]

end Browse

end PlanCourier

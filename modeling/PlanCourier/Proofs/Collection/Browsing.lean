import PlanCourier.Collection.Browser
import PlanCourier.Proofs.Order.Stable

/-!
# Browsing in order

What browsing makes of the answer of a collection service. A fault is passed on. Records come in
order of their names in lower case, and those whose names differ in case only, or not at all, come
as the service gave them. The domains of a collection are the ones that belong to it among all
domains, so it makes no difference whether they are picked out before the sorting or after it.

Main statements:

- `stablySorted_byName`: the records in order;
- `filter_byName`: picking records out makes no difference to the order of the others;
- `Shows.eq_of_perm`: where the names differ, the order in which the service gives records does not
  matter;
- `browsing_in_order`: what each way of browsing shows.
-/

namespace PlanCourier.Browse

variable {α : Type} {name : α → String}

/-- The name by which a record has its place. -/
def place (name : α → String) (x : α) : String := Text.lowered (name x)

theorem stablySorted_byName (name : α → String) (xs : List α) :
    StablySorted (place name) xs (byName name xs) := by
  have hbefore : (fun a b => !decide (Text.lowered (name b) < Text.lowered (name a))) =
      fun a b => decide (place name a ≤ place name b) := by
    funext a b
    rw [← decide_not, decide_eq_decide]
    exact String.not_lt
  rw [byName, hbefore]
  exact stablySorted_mergeSort (place name) xs

theorem filter_byName (name : α → String) (p : α → Bool) (xs : List α) :
    (byName name xs).filter p = byName name (xs.filter p) :=
  ((stablySorted_byName name xs).filter p).unique (stablySorted_byName name _)

/-- What is shown for an answer. -/
inductive Shows (name : α → String) :
    Except ServiceFault (List α) → Except ServiceFault (List α) → Prop
  | fault (cause : ServiceFault) : Shows name (.error cause) (.error cause)
  /-- All records and no others, each as often as it was given, in stable order. -/
  | records {given shown : List α} (perm : shown.Perm given)
      (sorted : StablySorted (place name) given shown) : Shows name (.ok given) (.ok shown)

theorem shows_byName (name : α → String) (answer : Except ServiceFault (List α)) :
    Shows name answer (answer.map (byName name)) := by
  cases answer with
  | error cause => exact .fault cause
  | ok given =>
    have hsorted := stablySorted_byName name given
    exact .records hsorted.perm hsorted

/-- Records with different names are shown in one order, in whichever order they were given. -/
theorem Shows.eq_of_perm {given given' : List α} {shown shown' : Except ServiceFault (List α)}
    (h : Shows name (.ok given) shown) (h' : Shows name (.ok given') shown')
    (hperm : given.Perm given') (hnames : (given.map (place name)).Nodup) : shown = shown' := by
  cases h with
  | records _ hsorted =>
    cases h' with
    | records _ hsorted' => exact congrArg Except.ok (hsorted.eq_of_perm hsorted' hperm hnames)

/-- The records of an answer for which `p` holds. -/
def picked (p : α → Bool) (answer : Except ServiceFault (List α)) :
    Except ServiceFault (List α) := answer.map (List.filter p)

/-- It makes no difference whether records are picked out before the sorting or after it. -/
theorem picked_map_byName (name : α → String) (p : α → Bool)
    (answer : Except ServiceFault (List α)) :
    picked p (answer.map (byName name)) = (picked p answer).map (byName name) := by
  cases answer with
  | error cause => rfl
  | ok given => exact congrArg Except.ok (filter_byName name p given)

/-- The action `browse` asks what `fetch` asks, once, and shows what comes of it. -/
def Browses {σ : Type} (name : α → String)
    (fetch browse : StateM σ (Except ServiceFault (List α))) : Prop :=
  ∀ w, Shows name (fetch.run w).1 (browse.run w).1 ∧ (browse.run w).2 = (fetch.run w).2

/-- What is shown of collections, domains and problems, whatever the service answers and however its
answers depend on what it was asked before: the records that were fetched, in stable order of their
names in lower case. The domains of a collection are the domains in order of which the ids are among
its own; they are also the fetched domains with such ids, brought in order in the same way, and all
of these. Where no two names are the same in lower case, what is shown does not depend on the order
of the answer. -/
theorem browsing_in_order {σ : Type} (s : CollectionService (StateM σ)) :
    Browses Collection.name s.collections (collections s) ∧
    Browses DomainEntry.name s.domains (domains s) ∧
    (∀ domain, Browses ProblemEntry.name (s.problems domain) (problems s domain)) ∧
    (∀ c : Collection,
      let own : Except ServiceFault (List DomainEntry) → Except ServiceFault (List DomainEntry) :=
        picked fun d => decide (d.id ∈ c.domainIds)
      domainsIn s c = own <$> domains s ∧
      domainsIn s c = Except.map (byName DomainEntry.name) <$> own <$> s.domains ∧
      Browses DomainEntry.name (own <$> s.domains) (domainsIn s c)) ∧
    ∀ {α : Type} {name : α → String} {given given' : List α}
      {shown shown' : Except ServiceFault (List α)},
      Shows name (.ok given) shown → Shows name (.ok given') shown' → given.Perm given' →
        (given.map (place name)).Nodup → shown = shown' := by
  refine ⟨fun w => ⟨shows_byName _ _, rfl⟩, fun w => ⟨shows_byName _ _, rfl⟩,
    fun domain w => ⟨shows_byName _ _, rfl⟩, fun c => ?_, Shows.eq_of_perm⟩
  intro own
  have hmembers : membersOf c = List.filter fun d => decide (d.id ∈ c.domainIds) := by
    funext ds
    simp [membersOf]
  have hafter : domainsIn s c = own <$> domains s := by
    unfold domainsIn
    rw [hmembers]
    rfl
  have hbefore : domainsIn s c = Except.map (byName DomainEntry.name) <$> own <$> s.domains := by
    rw [hafter]
    funext w
    exact Prod.ext (picked_map_byName DomainEntry.name _ (s.domains.run w).1) rfl
  refine ⟨hafter, hbefore, fun w => ?_⟩
  rw [hbefore]
  exact ⟨shows_byName _ _, rfl⟩

end PlanCourier.Browse

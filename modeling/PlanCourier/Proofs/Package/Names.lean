import Mathlib.Data.List.Nodup
import PlanCourier.Package.Catalog
import PlanCourier.Proofs.Json.Members

/-!
# Keys and names of packages

A listing files every package under a key. A package is shown by its name, which is the key only
where the package brings no name of its own, or the same one; it is found by the key. So what is
shown can be asked for just where all packages are named after their keys.

Main statements:

- `ascending_of_decode`: the keys of a listing ascend, so each of them stands there once;
- `Catalog.leadsTo_iff`: a name leads to the package that is filed under it;
- `named_after_keys_iff`: when the names that are shown can be asked for;
- `names_of_listed_packages`: what is shown of a listing, and what it leads to.
-/

namespace PlanCourier

open Json (Ascending lookup_eq_some_iff_mem)

namespace Decode

theorem names_of_values {decode : Decode α} {ms : List (String × Json)} {as : List (String × α)}
    (h : values decode ms = .ok as) : as.map (·.1) = ms.map (·.1) := by
  induction ms generalizing as with
  | nil =>
    obtain rfl := Except.ok.inj h
    rfl
  | cons m rest ih =>
    obtain ⟨k, v⟩ := m
    unfold values at h
    cases hv : decode v with
    | error fault => simp [hv] at h
    | ok a =>
      cases hrest : values decode rest with
      | error fault => simp [hv, hrest, Except.map] at h
      | ok others =>
        obtain rfl : (k, a) :: others = as := by simpa [hv, hrest, Except.map] using h
        simp [ih hrest]

theorem ascending_of_table {decode : Decode α} {v : Json} {as : List (String × α)}
    (h : table decode v.normal = .ok as) : Ascending as := by
  cases v with
  | object ms =>
    rw [Ascending, names_of_values h]
    exact Json.ascending_sortMembers _
  | _ => simp [Json.normal, table] at h

end Decode

namespace Listing

variable {v : Json} {l : Listing}

/-- A listing is read as a table of packages, which take their keys where they have no name. -/
theorem decode_eq_ok : decode v = .ok l ↔ ∃ own, Decode.table Package.decode v = .ok own ∧
    l = own.map fun (key, p) => (key, p.nameFromKey key) := by
  unfold decode
  cases Decode.table Package.decode v <;> simp [Except.map, eq_comm]

theorem ascending_of_decode (h : decode v.normal = .ok l) : Ascending l := by
  obtain ⟨own, hown, rfl⟩ := decode_eq_ok.1 h
  have hkeys : (own.map fun (key, p) => (key, p.nameFromKey key)).map (·.1) = own.map (·.1) := by
    simp
  rw [Ascending, hkeys]
  exact Decode.ascending_of_table hown

theorem perm_sorted (l : Listing) : l.sorted.Perm (l.map (·.2)) := List.mergeSort_perm _ _

theorem mem_sorted {p : Package} : p ∈ l.sorted ↔ ∃ key, (key, p) ∈ l := by
  simp [(perm_sorted l).mem_iff]

end Listing

namespace Package

theorem name_nameFromKey {key : String} {p : Package} :
    (p.nameFromKey key).name = key ↔ p.name = "" ∨ p.name = key := by
  unfold nameFromKey
  split <;> simp_all

end Package

namespace Catalog

variable {σ : Type} {fetch : Fetch (StateM σ)} {l : Listing} {s : σ} {name : String} {p : Package}

/-- To a catalog that holds the listing, the name means the package, whatever is asked. -/
structure LeadsTo (fetch : Fetch (StateM σ)) (l : Listing) (s : σ) (name : String) (p : Package) :
    Prop where
  package : (package fetch ⟨some l⟩ name).run s = ((.ok p, ⟨some l⟩), s)
  parameters : (parameters fetch ⟨some l⟩ name).run s = ((.ok p.solveParameters, ⟨some l⟩), s)
  resolve : ∀ user, (resolve fetch ⟨some l⟩ name user).run s =
    ((Parameter.resolve p.solveParameters user, ⟨some l⟩), s)

theorem run_reading_held (fetch : Fetch (StateM σ)) (l : Listing) (s : σ)
    (f : Listing → Except SolveFault α) :
    (reading fetch ⟨some l⟩ f).run s = ((f l, ⟨some l⟩), s) := rfl

theorem leadsTo_iff : LeadsTo fetch l s name p ↔ l.lookup name = some p := by
  constructor
  · rintro ⟨h, -, -⟩
    rw [package, run_reading_held] at h
    have hfind : find name l = .ok p := congrArg (fun r => r.1.1) h
    unfold find at hfind
    split at hfind
    next q hq => exact hq.trans (congrArg some (Except.ok.inj hfind))
    next => cases hfind
  · intro h
    have hfind : find name l = .ok p := by simp [find, h]
    constructor
    · rw [package, run_reading_held, hfind]
    · rw [parameters, run_reading_held, hfind]
      rfl
    · intro user
      rw [resolve, run_reading_held, hfind]
      rfl

theorem leadsTo_iff_mem (h : Ascending l) : LeadsTo fetch l s name p ↔ (name, p) ∈ l :=
  leadsTo_iff.trans (lookup_eq_some_iff_mem h)

/-- All packages can be asked for by the names they are shown with, and no two of them are shown
with one name, just where each of them is named after its key. -/
theorem named_after_keys_iff (h : Ascending l) :
    (∀ p ∈ l.sorted, LeadsTo fetch l s p.name p) ∧ (l.sorted.map (·.name)).Nodup ↔
      ∀ key p, (key, p) ∈ l → p.name = key := by
  have hnames : (l.sorted.map (·.name)).Perm (l.map (·.2.name)) := by
    simpa [Function.comp_def] using l.perm_sorted.map (·.name)
  constructor
  · rintro ⟨hfound, hdistinct⟩ key p hkey
    have hname := (leadsTo_iff_mem h).1 (hfound p (Listing.mem_sorted.2 ⟨key, hkey⟩))
    -- two entries with one package would be shown with one name
    have hsame := List.inj_on_of_nodup_map (hnames.nodup hdistinct) hname hkey rfl
    exact congrArg (·.1) hsame
  · intro hkeys
    refine ⟨fun p hp => ?_, hnames.symm.nodup ?_⟩
    · obtain ⟨key, hkey⟩ := Listing.mem_sorted.1 hp
      rw [hkeys key p hkey]
      exact (leadsTo_iff_mem h).2 hkey
    · have hnamed : l.map (·.2.name) = l.map (·.1) :=
        List.map_congr_left fun entry hentry => hkeys entry.1 entry.2 hentry
      rw [hnamed]
      exact h.nodup

end Catalog

/-- What is shown of a listing that a service gives, and what it leads to.

Every package is shown, and is found by its key. The name that it is shown with leads to it just
where it is filed under this name. So all names lead to what they are shown with, and differ, just
where every package brings no name of its own or its key for a name. -/
theorem names_of_listed_packages {σ : Type} {fetch : Catalog.Fetch (StateM σ)} {v : Json}
    {l : Listing} {s s' : σ} (hdecode : Listing.decode v.normal = .ok l)
    (hfetch : fetch.run s = (.ok l, s')) :
    (Catalog.empty.list fetch).run s = ((.ok l.sorted, ⟨some l⟩), s') ∧
    l.sorted.Perm (l.map (·.2)) ∧
    (∀ key p, (key, p) ∈ l → Catalog.LeadsTo fetch l s' key p) ∧
    (∀ p ∈ l.sorted, Catalog.LeadsTo fetch l s' p.name p ↔ (p.name, p) ∈ l) ∧
    ∃ own, Decode.table Package.decode v.normal = .ok own ∧
      l = (own.map fun (key, p) => (key, p.nameFromKey key)) ∧
      ((∀ p ∈ l.sorted, Catalog.LeadsTo fetch l s' p.name p) ∧ (l.sorted.map (·.name)).Nodup ↔
        ∀ key p, (key, p) ∈ own → p.name = "" ∨ p.name = key) := by
  have hkeys := Listing.ascending_of_decode hdecode
  obtain ⟨own, hown, rfl⟩ := Listing.decode_eq_ok.1 hdecode
  refine ⟨?_, Listing.perm_sorted _, fun key p hkey => (Catalog.leadsTo_iff_mem hkeys).2 hkey,
    fun p _ => Catalog.leadsTo_iff_mem hkeys, own, hown, rfl, ?_⟩
  · rw [Catalog.list, Catalog.reading, Catalog.index, Catalog.empty, Catalog.refresh]
    simp only [StateT.run_bind, hfetch]
    rfl
  · rw [Catalog.named_after_keys_iff hkeys]
    constructor
    · intro h key p hp
      exact Package.name_nameFromKey.1 (h key _ (List.mem_map_of_mem hp))
    · intro h key p hp
      obtain ⟨⟨key', q⟩, hq, heq⟩ := List.mem_map.1 hp
      obtain ⟨rfl, rfl⟩ := Prod.mk.inj heq
      exact Package.name_nameFromKey.2 (h _ q hq)

namespace Sample

/-- The record of a package under the key `a` that names itself `b`. -/
def misnamed : Json := .object [("a", .object [("name", .text "b")])]

/-- The same beside a package under the key `b`. -/
def namesakes : Json :=
  .object [("a", .object [("name", .text "b")]), ("b", .object [("description", .text "other")])]

/-- A service that gives a listing whenever it is asked, and counts how often it was. -/
def offering (l : Listing) : Catalog.Fetch (StateM Nat) := fun n => (.ok l, n + 1)

end Sample

/-- Of two packages that are shown as `b`, the name leads to the one that is filed under it; so not
every package can be asked for by the name that it is shown with. -/
theorem namesakes_lead_to_one : ∃ l, Listing.decode Sample.namesakes.normal = .ok l ∧
    ⟨"b", none, []⟩ ∈ l.sorted ∧
    Catalog.LeadsTo (Sample.offering l) l 1 "b" ⟨"b", some "other", []⟩ ∧
    ¬ Catalog.LeadsTo (Sample.offering l) l 1 "b" ⟨"b", none, []⟩ := by
  have hdecode : Listing.decode Sample.namesakes.normal =
    .ok [("a", ⟨"b", none, []⟩), ("b", ⟨"b", some "other", []⟩)] := rfl
  obtain ⟨-, hshown, hkeys, hnames, -⟩ :=
    names_of_listed_packages hdecode (rfl : (Sample.offering _).run 0 = _)
  have hmem : (⟨"b", none, []⟩ : Package) ∈ _ := hshown.mem_iff.2 List.mem_cons_self
  exact ⟨_, hdecode, hmem, hkeys "b" _ (by simp), fun h => by simpa using (hnames _ hmem).1 h⟩

/-- A package that names itself otherwise than its key is shown with a name that leads to
nothing. -/
theorem shown_name_leads_nowhere : ∃ l p,
    Listing.decode Sample.misnamed.normal = .ok l ∧
    (Catalog.empty.list (Sample.offering l)).run 0 = ((.ok [p], ⟨some l⟩), 1) ∧
    (Catalog.package (Sample.offering l) ⟨some l⟩ p.name).run 1 =
      ((.error (.unknownPackage p.name), ⟨some l⟩), 1) := by
  have hsorted : Listing.sorted [("a", ⟨"b", none, []⟩)] = [⟨"b", none, []⟩] := by
    simp [Listing.sorted]
  refine ⟨[("a", ⟨"b", none, []⟩)], ⟨"b", none, []⟩, rfl, ?_, rfl⟩
  rw [← hsorted]
  rfl

end PlanCourier

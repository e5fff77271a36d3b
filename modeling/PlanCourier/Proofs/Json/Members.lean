import Mathlib.Data.List.Nodup
import PlanCourier.Json.Basic

/-!
# Members in order

The members of an object in normal form ascend by their names, so no name stands there twice, and
looking up a name finds the one member that has it. Sorting keeps of one name the last member, and
where no name stands twice it keeps all members.

Main statements:

- `ascending_sortMembers`: sorted members ascend;
- `lookup_eq_some_iff_mem`: among ascending members a name leads to the member that has it;
- `lookup_sortMembers`: of one name the last member stays;
- `Ascending.ext`: ascending members are known by what their names lead to.
-/

namespace PlanCourier.Json

variable {α : Type} {ms ms' : List (String × α)} {name : String} {value : α}

/-- The names of the members ascend. -/
def Ascending (ms : List (String × α)) : Prop := (ms.map (·.1)).Pairwise (· < ·)

instance (ms : List (String × α)) : Decidable (Ascending ms) :=
  inferInstanceAs (Decidable ((ms.map (·.1)).Pairwise (· < ·)))

theorem ascending_nil : Ascending ([] : List (String × α)) := List.Pairwise.nil

theorem Ascending.nodup (h : Ascending ms) : (ms.map (·.1)).Nodup :=
  List.Pairwise.imp (fun hlt => Std.ne_of_lt hlt) h

theorem Ascending.map_values (h : Ascending ms) (f : α → β) :
    Ascending (ms.map fun (k, a) => (k, f a)) := by
  simpa [Ascending, Function.comp_def] using h

theorem mem_names_insertMember {k : String} :
    k ∈ (insertMember name value ms).map (·.1) ↔ k = name ∨ k ∈ ms.map (·.1) := by
  induction ms with
  | nil => simp [insertMember]
  | cons m rest ih =>
    obtain ⟨l, v⟩ := m
    unfold insertMember
    split
    next => simp
    next =>
      split
      next he =>
        subst he
        simp
      next =>
        rw [List.map_cons, List.mem_cons, ih, List.map_cons, List.mem_cons]
        exact or_left_comm

theorem ascending_insertMember (h : Ascending ms) : Ascending (insertMember name value ms) := by
  induction ms with
  | nil => simp [insertMember, Ascending]
  | cons m rest ih =>
    obtain ⟨l, v⟩ := m
    obtain ⟨hfirst, hrest⟩ := List.pairwise_cons.1 h
    unfold insertMember
    split
    next hlt =>
      refine List.pairwise_cons.2 ⟨fun k hk => ?_, h⟩
      obtain rfl | hk := List.mem_cons.1 hk
      · exact hlt
      · exact String.lt_trans hlt (hfirst k hk)
    next hle =>
      split
      next he =>
        subst he
        exact h
      next hne =>
        refine List.pairwise_cons.2 ⟨fun k hk => ?_, ih hrest⟩
        obtain rfl | hk := mem_names_insertMember.1 hk
        · exact Std.lt_of_le_of_ne (String.not_lt.1 hle) (Ne.symm hne)
        · exact hfirst k hk

theorem ascending_foldl_insertMember (ms : List (String × α)) {sorted : List (String × α)}
    (h : Ascending sorted) :
    Ascending (ms.foldl (fun sorted (k, v) => insertMember k v sorted) sorted) := by
  induction ms generalizing sorted with
  | nil => exact h
  | cons m rest ih => exact ih (ascending_insertMember h)

theorem ascending_sortMembers (ms : List (String × α)) : Ascending (sortMembers ms) :=
  ascending_foldl_insertMember ms ascending_nil

theorem lookup_cons_of_ne {k l : String} (h : k ≠ l) (v : α) :
    ((l, v) :: ms).lookup k = ms.lookup k := by
  rw [List.lookup_cons, beq_false_of_ne h]

theorem mem_of_lookup_eq_some (h : ms.lookup name = some value) : (name, value) ∈ ms := by
  obtain ⟨before, after, rfl, -⟩ := List.lookup_eq_some_iff.1 h
  exact List.mem_append_right _ List.mem_cons_self

theorem lookup_map_values {β : Type} (f : String → α → β) (ms : List (String × α)) (k : String) :
    (ms.map fun (l, a) => (l, f l a)).lookup k = (ms.lookup k).map (f k) := by
  induction ms with
  | nil => rfl
  | cons m rest ih =>
    obtain ⟨l, a⟩ := m
    by_cases h : k = l
    · subst h
      simp
    · rw [lookup_cons_of_ne h, ← ih]
      exact lookup_cons_of_ne h (f l a)

theorem lookup_eq_none_iff_notMem : ms.lookup name = none ↔ name ∉ ms.map (·.1) := by
  rw [List.lookup_eq_none_iff]
  constructor
  · intro h hmem
    obtain ⟨m, hm, rfl⟩ := List.mem_map.1 hmem
    simpa using h m hm
  · intro h m hm
    rw [bne_iff_ne]
    rintro rfl
    exact h (List.mem_map.2 ⟨m, hm, rfl⟩)

theorem lookup_eq_some_iff_mem_of_nodup (h : (ms.map (·.1)).Nodup) :
    ms.lookup name = some value ↔ (name, value) ∈ ms := by
  induction ms with
  | nil => simp
  | cons m rest ih =>
    obtain ⟨l, v⟩ := m
    obtain ⟨hl, hrest⟩ := List.nodup_cons.1 h
    by_cases he : name = l
    · subst he
      have hnone : (name, value) ∉ rest := fun hmem => hl (List.mem_map.2 ⟨_, hmem, rfl⟩)
      simp [hnone, eq_comm]
    · rw [lookup_cons_of_ne he, ih hrest]
      simp [he]

theorem lookup_eq_some_iff_mem (h : Ascending ms) :
    ms.lookup name = some value ↔ (name, value) ∈ ms :=
  lookup_eq_some_iff_mem_of_nodup h.nodup

/-- Ascending members are known by what their names lead to. -/
theorem Ascending.ext (h : Ascending ms) (h' : Ascending ms')
    (hlookup : ∀ k, ms.lookup k = ms'.lookup k) : ms = ms' := by
  have hperm : ms.Perm ms' := by
    refine (List.perm_ext_iff_of_nodup h.nodup.of_map h'.nodup.of_map).2 fun m => ?_
    rw [← lookup_eq_some_iff_mem h, ← lookup_eq_some_iff_mem h', hlookup]
  refine hperm.eq_of_pairwise (fun m m' _ _ hlt hgt => ?_) (List.pairwise_map.1 h)
    (List.pairwise_map.1 h')
  exact absurd hgt (String.lt_asymm hlt)

/-! ## Sorting -/

theorem lookup_foldl_insertMember (ms sorted : List (String × α)) (k : String) :
    (ms.foldl (fun sorted (k, v) => insertMember k v sorted) sorted).lookup k =
      (ms.reverse.lookup k).or (sorted.lookup k) := by
  induction ms generalizing sorted with
  | nil => rfl
  | cons m rest ih =>
    obtain ⟨l, v⟩ := m
    rw [List.foldl_cons, ih, lookup_insertMember, List.reverse_cons, List.lookup_append,
      Option.or_assoc]
    by_cases hk : k = l
    · simp [hk]
    · simp [hk, lookup_cons_of_ne hk]

/-- Of one name the last member stays. -/
theorem lookup_sortMembers (ms : List (String × α)) (k : String) :
    (sortMembers ms).lookup k = ms.reverse.lookup k := by
  rw [sortMembers, lookup_foldl_insertMember]
  simp

theorem mem_of_mem_sortMembers {m : String × α} (h : m ∈ sortMembers ms) : m ∈ ms := by
  have hlookup := (lookup_eq_some_iff_mem (ascending_sortMembers ms)).2 h
  rw [lookup_sortMembers] at hlookup
  exact List.mem_reverse.1 (mem_of_lookup_eq_some hlookup)

/-- Where no name stands twice, sorting changes nothing of what a name leads to. -/
theorem lookup_sortMembers_of_nodup (h : (ms.map (·.1)).Nodup) (k : String) :
    (sortMembers ms).lookup k = ms.lookup k := by
  have hreverse : (ms.reverse.map (·.1)).Nodup := by
    rw [List.map_reverse]
    exact List.nodup_reverse.2 h
  rw [lookup_sortMembers]
  apply Option.ext
  intro v
  rw [lookup_eq_some_iff_mem_of_nodup hreverse, lookup_eq_some_iff_mem_of_nodup h,
    List.mem_reverse]

theorem perm_sortMembers (h : (ms.map (·.1)).Nodup) : (sortMembers ms).Perm ms := by
  have hsorted := (ascending_sortMembers ms).nodup
  refine (List.perm_ext_iff_of_nodup hsorted.of_map h.of_map).2 fun m => ?_
  rw [← lookup_eq_some_iff_mem_of_nodup hsorted, ← lookup_eq_some_iff_mem_of_nodup h,
    lookup_sortMembers_of_nodup h]

theorem Ascending.sortMembers_eq (h : Ascending ms) : sortMembers ms = ms := by
  refine (ascending_sortMembers ms).ext h fun k => ?_
  exact lookup_sortMembers_of_nodup h.nodup k

/-! ## Normal forms -/

theorem normalItems_eq_map (items : List Json) : normalItems items = items.map normal := by
  induction items with
  | nil => rfl
  | cons v rest ih => rw [normalItems, ih, List.map_cons]

theorem normalMembers_eq_map (ms : List (String × Json)) :
    normalMembers ms = ms.map fun (k, v) => (k, v.normal) := by
  induction ms with
  | nil => rfl
  | cons m rest ih => rw [normalMembers, ih, List.map_cons]

/-- The parts of a value: the items of a list, or the values of an object's members. -/
def children : Json → List Json
  | .list vs => vs
  | .object ms => ms.map (·.2)
  | _ => []

theorem exists_normal_of_mem_children {v u : Json} (h : u ∈ v.normal.children) :
    ∃ w : Json, u = w.normal := by
  cases v with
  | list items =>
    rw [normal, children, normalItems_eq_map] at h
    obtain ⟨w, -, rfl⟩ := List.mem_map.1 h
    exact ⟨w, rfl⟩
  | object ms =>
    obtain ⟨m, hm, rfl⟩ := List.mem_map.1 h
    have hmem := mem_of_mem_sortMembers hm
    rw [normalMembers_eq_map] at hmem
    obtain ⟨⟨k, w⟩, -, rfl⟩ := List.mem_map.1 hmem
    exact ⟨w, rfl⟩
  | _ => simp [normal, children] at h

end PlanCourier.Json

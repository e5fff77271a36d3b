import Mathlib.Data.List.Induction
import PlanCourier.Config.Layers
import PlanCourier.Proofs.Json.Members

/-!
# What merged layers have in a place

A place of a value is named by a path. Where every layer has objects all along a path, the layers
are merged along it place by place: what stands at its end is what the layers have there, one over
the other. The highest of them counts, unless it is an object over an object.

Main statements:

- `lookup_mergeMembers_of_nodup`: two layers, member by member;
- `at?_merge`: two layers along a path;
- `at?_foldl_merge`: any number of layers along a path;
- `pile_cons`: of values that lie over each other the highest one counts.
-/

namespace PlanCourier.Json

/-- What stands at the end of a path. -/
def at? : Json → List String → Option Json
  | v, [] => some v
  | v, name :: rest => (v.get? name).bind (at? · rest)

/-- The value has objects all along the path, as far as the path leads in it. -/
def Opens : Json → List String → Prop
  | _, [] => True
  | v, name :: rest => v.isObject = true ∧ ∀ u, v.get? name = some u → Opens u rest

/-- The members of all objects stand in the order of their names, each name once. What lies in lists
does not matter: a list is never merged. -/
inductive IsTidy : Json → Prop
  | leaf {v : Json} (h : v.isObject = false) : IsTidy v
  | object {ms : List (String × Json)} (hms : Ascending ms) (h : ∀ m ∈ ms, IsTidy m.2) :
    IsTidy (.object ms)

/-- Whether objects stand all along a path can be checked name by name. -/
instance Opens.decidable : (v : Json) → (path : List String) → Decidable (v.Opens path)
  | _, [] => .isTrue trivial
  | v, name :: rest =>
    match h : v.get? name with
    | none => decidable_of_iff (v.isObject = true) (by simp [Opens, h])
    | some u =>
      have := Opens.decidable u rest
      decidable_of_iff (v.isObject = true ∧ u.Opens rest) (by simp [Opens, h])

theorem exists_object_of_isObject {v : Json} (h : v.isObject = true) : ∃ ms, v = .object ms := by
  cases v with
  | object ms => exact ⟨ms, rfl⟩
  | _ => cases h

namespace IsTidy

variable {v : Json} {ms : List (String × Json)} {name : String}

theorem ascending (h : IsTidy (.object ms)) : Ascending ms := by
  cases h with
  | leaf h => cases h
  | object hms h => exact hms

theorem of_lookup (h : IsTidy (.object ms)) (hv : ms.lookup name = some v) : IsTidy v := by
  cases h with
  | leaf h => cases h
  | object hms h => exact h _ (mem_of_lookup_eq_some hv)

theorem of_forall_lookup (hms : Ascending ms)
    (h : ∀ name v, ms.lookup name = some v → IsTidy v) : IsTidy (.object ms) := by
  refine object hms fun m hm => ?_
  obtain ⟨name, v⟩ := m
  exact h name v ((lookup_eq_some_iff_mem hms).2 hm)

theorem nil : IsTidy (.object []) := object ascending_nil (by simp)

theorem insertMember (h : IsTidy (.object ms)) (hv : IsTidy v) :
    IsTidy (.object (insertMember name v ms)) := by
  refine of_forall_lookup (ascending_insertMember h.ascending) fun k u hu => ?_
  rw [lookup_insertMember] at hu
  split at hu
  · obtain rfl := Option.some.inj hu
    exact hv
  · exact h.of_lookup hu

theorem foldl_insertMember {given : List (String × Json)} (h : IsTidy (.object ms))
    (hgiven : ∀ m ∈ given, IsTidy m.2) :
    IsTidy (.object (given.foldl (fun ms (name, v) => Json.insertMember name v ms) ms)) := by
  induction given generalizing ms with
  | nil => exact h
  | cons m rest ih =>
    have hm := hgiven m List.mem_cons_self
    exact ih (h.insertMember hm) fun m' hm' => hgiven m' (List.mem_cons_of_mem m hm')

theorem ofMembers (h : ∀ m ∈ ms, IsTidy m.2) : IsTidy (.ofMembers ms) :=
  nil.foldl_insertMember h

end IsTidy

/-! ## Two layers -/

/-- What two layers have in one place, the second one over the first one. -/
def stacked : Option Json → Option Json → Option Json
  | below, none => below
  | none, some v => some v
  | some old, some v => some (merge old v)

@[simp] theorem stacked_none (below : Option Json) : stacked below none = below := by
  cases below <;> rfl

@[simp] theorem none_stacked (above : Option Json) : stacked none above = above := by
  cases above <;> rfl

@[simp] theorem some_stacked_some (old v : Json) :
    stacked (some old) (some v) = some (merge old v) := rfl

variable {below above : Json} {path : List String}

theorem merge_of_not_isObject (h : above.isObject = false) : merge below above = above := by
  cases above with
  | object ms => cases h
  | _ => cases below <;> rfl

theorem merge_of_below_not_isObject (h : below.isObject = false) : merge below above = above := by
  cases below with
  | object ms => cases h
  | _ => cases above <;> rfl

theorem merge_object (bs as : List (String × Json)) :
    merge (.object bs) (.object as) = .object (mergeMembers bs as) := by
  rw [merge]

theorem isObject_merge (h : above.isObject = true) : (merge below above).isObject = true := by
  obtain ⟨as, rfl⟩ := exists_object_of_isObject h
  cases below with
  | object bs => rw [merge_object]; rfl
  | _ => rw [merge_of_below_not_isObject rfl]; rfl

theorem lookup_mergeMembers_of_nodup {bs as : List (String × Json)} (h : (as.map (·.1)).Nodup)
    (k : String) : (mergeMembers bs as).lookup k = stacked (bs.lookup k) (as.lookup k) := by
  induction as generalizing bs with
  | nil => rw [mergeMembers, List.lookup_nil, stacked_none]
  | cons m rest ih =>
    obtain ⟨name, v⟩ := m
    obtain ⟨hname, hrest⟩ := List.nodup_cons.1 h
    rw [mergeMembers, ih hrest, lookup_insertMember]
    by_cases hk : k = name
    · subst hk
      -- the name does not come again, so the merged value stays
      have hnone : rest.lookup k = none := lookup_eq_none_iff_notMem.2 hname
      rw [if_pos rfl, hnone, stacked_none, List.lookup_cons_self]
      cases bs.lookup k <;> rfl
    · rw [if_neg hk, lookup_cons_of_ne hk]

theorem ascending_mergeMembers {bs : List (String × Json)} (h : Ascending bs)
    (as : List (String × Json)) : Ascending (mergeMembers bs as) := by
  induction as generalizing bs with
  | nil => rwa [mergeMembers]
  | cons m rest ih =>
    rw [mergeMembers]
    exact ih (ascending_insertMember h)

theorem IsTidy.merge (hb : IsTidy below) (ha : IsTidy above) : IsTidy (merge below above) := by
  induction ha generalizing below with
  | leaf h =>
    rw [merge_of_not_isObject h]
    exact .leaf h
  | @object as has h ih =>
    cases hb with
    | leaf hb =>
      rw [merge_of_below_not_isObject hb]
      exact .object has h
    | @object bs hbs hb =>
      rw [merge_object]
      refine .of_forall_lookup (ascending_mergeMembers hbs as) fun name v hv => ?_
      rw [lookup_mergeMembers_of_nodup has.nodup] at hv
      cases hu : as.lookup name with
      | none =>
        rw [hu, stacked_none] at hv
        exact hb _ (mem_of_lookup_eq_some hv)
      | some u =>
        have hmem := mem_of_lookup_eq_some hu
        cases hold : bs.lookup name with
        | none =>
          rw [hu, hold, none_stacked] at hv
          obtain rfl := Option.some.inj hv
          exact h _ hmem
        | some old =>
          rw [hu, hold, some_stacked_some] at hv
          obtain rfl := Option.some.inj hv
          exact ih _ hmem (hb _ (mem_of_lookup_eq_some hold))

/-! ## Along a path -/

/-- Two layers that have objects all along a path are merged at its end. -/
theorem at?_merge (hb : below.Opens path) (ha : above.Opens path) (htidy : IsTidy above) :
    (merge below above).at? path = stacked (below.at? path) (above.at? path) := by
  induction path generalizing below above with
  | nil => rfl
  | cons name rest ih =>
    obtain ⟨bs, rfl⟩ := exists_object_of_isObject hb.1
    obtain ⟨as, rfl⟩ := exists_object_of_isObject ha.1
    rw [merge_object]
    simp only [at?, get?]
    rw [lookup_mergeMembers_of_nodup htidy.ascending.nodup]
    cases hu : as.lookup name with
    | none => simp
    | some u =>
      cases hold : bs.lookup name with
      | none => simp
      | some old => exact ih (hb.2 old hold) (ha.2 u hu) (htidy.of_lookup hu)

theorem Opens.merge (hb : below.Opens path) (ha : above.Opens path) (htidy : IsTidy above) :
    (merge below above).Opens path := by
  induction path generalizing below above with
  | nil => trivial
  | cons name rest ih =>
    obtain ⟨bs, rfl⟩ := exists_object_of_isObject hb.1
    obtain ⟨as, rfl⟩ := exists_object_of_isObject ha.1
    rw [merge_object]
    refine ⟨rfl, fun v hv => ?_⟩
    simp only [get?] at hv
    rw [lookup_mergeMembers_of_nodup htidy.ascending.nodup] at hv
    cases hu : as.lookup name with
    | none =>
      rw [hu, stacked_none] at hv
      exact hb.2 v hv
    | some u =>
      cases hold : bs.lookup name with
      | none =>
        rw [hu, hold, none_stacked] at hv
        exact ha.2 v (hu.trans hv)
      | some old =>
        rw [hu, hold, some_stacked_some] at hv
        obtain rfl := Option.some.inj hv
        exact ih (hb.2 old hold) (ha.2 u hu) (htidy.of_lookup hu)

/-- Whatever stands along the path, what is found at its end comes from one of the layers, or from
both. -/
theorem at?_merge_cases {v : Json} (htidy : IsTidy above)
    (h : (merge below above).at? path = some v) :
    above.at? path = some v ∨ below.at? path = some v ∨
      ((below.at? path).isSome ∧ (above.at? path).isSome) := by
  induction path generalizing below above with
  | nil => exact .inr (.inr ⟨rfl, rfl⟩)
  | cons name rest ih =>
    by_cases hobjects : below.isObject = true ∧ above.isObject = true
    · obtain ⟨bs, rfl⟩ := exists_object_of_isObject hobjects.1
      obtain ⟨as, rfl⟩ := exists_object_of_isObject hobjects.2
      rw [merge_object] at h
      simp only [at?, get?] at h ⊢
      rw [lookup_mergeMembers_of_nodup htidy.ascending.nodup] at h
      cases hu : as.lookup name with
      | none =>
        rw [hu, stacked_none] at h
        exact .inr (.inl h)
      | some u =>
        cases hold : bs.lookup name with
        | none =>
          rw [hu, hold, none_stacked] at h
          exact .inl h
        | some old =>
          rw [hu, hold, some_stacked_some] at h
          exact ih (htidy.of_lookup hu) h
    · have hmerge : merge below above = above := by
        by_cases habove : above.isObject = true
        · have hbelow : below.isObject = false := by simpa [habove] using hobjects
          exact merge_of_below_not_isObject hbelow
        · exact merge_of_not_isObject (by simpa using habove)
      rw [hmerge] at h
      exact .inl h

/-! ## Many layers -/

/-- What values come to that lie over each other, the highest one first. -/
def pile : List Json → Option Json
  | [] => none
  | v :: lower => stacked (pile lower) (some v)

/-- The highest value counts, unless it is an object and so is the next one. -/
theorem pile_cons {v : Json} {lower : List Json}
    (h : v.isObject = true → ∀ u ∈ lower.head?, u.isObject = false) :
    pile (v :: lower) = some v := by
  induction lower generalizing v with
  | nil => rfl
  | cons u more ih =>
    rw [pile]
    by_cases hv : v.isObject = true
    · -- the next value is no object, so it counts itself among those below
      have hu : u.isObject = false := h hv u rfl
      rw [ih (fun hobject => by simp [hu] at hobject), some_stacked_some,
        merge_of_below_not_isObject hu]
    · have hmerge (old : Json) : merge old v = v := merge_of_not_isObject (by simpa using hv)
      cases pile (u :: more) with
      | none => rfl
      | some old => rw [some_stacked_some, hmerge]

theorem isObject_of_pile {v w : Json} {lower : List Json} (hv : v.isObject = true)
    (h : pile (v :: lower) = some w) : w.isObject = true := by
  rw [pile] at h
  cases hlower : pile lower with
  | none =>
    rw [hlower, none_stacked] at h
    obtain rfl := Option.some.inj h
    exact hv
  | some old =>
    rw [hlower, some_stacked_some] at h
    obtain rfl := Option.some.inj h
    exact isObject_merge hv

variable {base : Json} {layers : List Json}

theorem isTidy_foldl_merge (hbase : IsTidy base) (htidy : ∀ l ∈ layers, IsTidy l) :
    IsTidy (layers.foldl merge base) := by
  induction layers generalizing base with
  | nil => exact hbase
  | cons l rest ih =>
    obtain ⟨hl, hrest⟩ := List.forall_mem_cons.1 htidy
    exact ih (hbase.merge hl) hrest

theorem opens_foldl_merge (hbase : base.Opens path) (hopen : ∀ l ∈ layers, l.Opens path)
    (htidy : ∀ l ∈ layers, IsTidy l) : (layers.foldl merge base).Opens path := by
  induction layers generalizing base with
  | nil => exact hbase
  | cons l rest ih =>
    obtain ⟨hl, hrest⟩ := List.forall_mem_cons.1 htidy
    obtain ⟨hlOpen, hrestOpen⟩ := List.forall_mem_cons.1 hopen
    exact ih (hbase.merge hlOpen hl) hrestOpen hrest

/-- Layers that have objects all along a path come, at its end, to what they have there, the last
layer lying over all others. -/
theorem at?_foldl_merge (hbase : base.Opens path) (hopen : ∀ l ∈ layers, l.Opens path)
    (htidy : ∀ l ∈ layers, IsTidy l) :
    (layers.foldl merge base).at? path =
      pile ((base :: layers).reverse.filterMap (·.at? path)) := by
  -- from the lowest layer up, so that the last one lies over all others
  induction layers using List.reverseRecOn with
  | nil =>
    show base.at? path = pile ([base].filterMap (·.at? path))
    cases hvalue : base.at? path <;> simp [hvalue, pile]
  | append_singleton before l ih =>
    obtain ⟨hopenBefore, hopenLast⟩ := List.forall_mem_append.1 hopen
    obtain ⟨htidyBefore, htidyLast⟩ := List.forall_mem_append.1 htidy
    have hlast := List.mem_singleton_self l
    have hvalues : (base :: (before ++ [l])).reverse.filterMap (·.at? path) =
        (l.at? path).toList ++ (base :: before).reverse.filterMap (·.at? path) := by
      cases hvalue : l.at? path <;> simp [hvalue]
    rw [List.foldl_append, hvalues]
    show (merge (before.foldl merge base) l).at? path = _
    rw [at?_merge (opens_foldl_merge hbase hopenBefore htidyBefore) (hopenLast l hlast)
      (htidyLast l hlast), ih hopenBefore htidyBefore]
    cases l.at? path with
    | none => exact stacked_none _
    | some v => rfl

/-- What only one of the layers has at the end of a path is found there. -/
theorem at?_foldl_merge_of_mem {l : Json} {v : Json} (hbase : base.Opens path)
    (hopen : ∀ l ∈ layers, l.Opens path) (htidy : ∀ l ∈ layers, IsTidy l)
    (hnone : base.at? path = none)
    (hapart : layers.Pairwise fun l l' => l.at? path = none ∨ l'.at? path = none)
    (hmem : l ∈ layers) (h : l.at? path = some v) :
    (layers.foldl merge base).at? path = some v := by
  rw [at?_foldl_merge hbase hopen htidy]
  obtain ⟨before, after, rfl⟩ := List.append_of_mem hmem
  obtain ⟨-, hafter, hbefore⟩ := List.pairwise_append.1 hapart
  have hleft : before.reverse.filterMap (·.at? path) = [] := by
    refine List.filterMap_eq_nil_iff.2 fun l' hl' => ?_
    have hpair := hbefore l' (List.mem_reverse.1 hl') l List.mem_cons_self
    exact hpair.resolve_right (by simp [h])
  have hright : after.reverse.filterMap (·.at? path) = [] := by
    refine List.filterMap_eq_nil_iff.2 fun l' hl' => ?_
    have hpair := (List.pairwise_cons.1 hafter).1 l' (List.mem_reverse.1 hl')
    exact hpair.resolve_left (by simp [h])
  have hvalues : (base :: (before ++ l :: after)).reverse.filterMap (·.at? path) = [v] := by
    simp [List.filterMap_append, hleft, hright, h, hnone]
  rw [hvalues]
  rfl

/-- What is found at the end of a path comes from one of the layers, if no two of them have
anything there. -/
theorem exists_of_at?_foldl_merge {v : Json} (htidy : ∀ l ∈ layers, IsTidy l)
    (hbase : base.at? path = none)
    (hapart : layers.Pairwise fun l l' => l.at? path = none ∨ l'.at? path = none)
    (h : (layers.foldl merge base).at? path = some v) : ∃ l ∈ layers, l.at? path = some v := by
  induction layers using List.reverseRecOn generalizing v with
  | nil => simp [hbase] at h
  | append_singleton before l ih =>
    obtain ⟨hbefore, -, hlast⟩ := List.pairwise_append.1 hapart
    obtain ⟨htidyBefore, htidyLast⟩ := List.forall_mem_append.1 htidy
    rw [List.foldl_append] at h
    obtain hl | hrest | ⟨hrest, hl⟩ :=
      at?_merge_cases (htidyLast l (List.mem_singleton_self l)) h
    · exact ⟨l, by simp, hl⟩
    · obtain ⟨l', hmem, hl'⟩ := ih htidyBefore hbefore hrest
      exact ⟨l', List.mem_append_left _ hmem, hl'⟩
    · -- an earlier layer has something there, too
      obtain ⟨u, hu⟩ := Option.isSome_iff_exists.1 hrest
      obtain ⟨l', hmem, hl'⟩ := ih htidyBefore hbefore hu
      obtain hnone | hnone := hlast l' hmem l (List.mem_singleton_self l)
      · simp [hnone] at hl'
      · simp [hnone] at hl

end PlanCourier.Json

import PlanCourier.Json.Record
import PlanCourier.Proofs.Json.Members

/-!
# Records that are written and read

What a record is read as, field by field. Fields are written in order of their names; one that is
written under its own name, and under no other of its names, is read as what its value stands for.
So a record is read back if each of its fields is. Where it is the other way round, and a record was
read from some value, every field of it is its default or was read from a part of this value.

A field that may be left out has one peculiarity: null under its name counts as if nothing were
there. So what is written of such a field is read back unless it is null itself.

Main statements:

- `Source.field_of_mem` and its companions: fields that are written are read back;
- `Source.field_eq_read`: what a field was read from;
- `Decode.items_map` and `Decode.values_map`: lists and tables that are written are read back.
-/

namespace PlanCourier

open Json (Ascending sortMembers)

/-! ## Readings -/

namespace Reading

theorem seq_eq_read {f : Reading (α → β)} {x : Reading α} {b : β} :
    (f <*> x) = .read b ↔ ∃ g a, f = .read g ∧ x = .read a ∧ g a = b := by
  constructor
  · intro h
    cases f with
    | faulty e => cases x <;> cases h
    | read g =>
      cases x with
      | faulty e => cases h
      | read a =>
        injection h with hb
        exact ⟨g, a, rfl, rfl, hb⟩
  · rintro ⟨g, a, rfl, rfl, rfl⟩
    rfl

theorem map_eq_read {f : α → β} {x : Reading α} {b : β} :
    (f <$> x) = .read b ↔ ∃ a, x = .read a ∧ f a = b := by
  have h : (f <$> x) = (Reading.read f <*> x) := rfl
  rw [h, seq_eq_read]
  constructor
  · rintro ⟨g, a, hg, ha, rfl⟩
    injection hg with hg
    exact ⟨a, ha, hg ▸ rfl⟩
  · rintro ⟨a, ha, rfl⟩
    exact ⟨f, a, rfl, ha, rfl⟩

theorem result_eq_ok {x : Reading α} {a : α} : x.result = .ok a ↔ x = .read a := by
  cases x <;> simp [result]

end Reading

theorem Decode.text_text (s : String) : text (.text s) = .ok s := rfl

theorem Decode.nullable_of_ne_null {decode : Decode α} {v : Json} (h : v ≠ .null) :
    nullable decode v = (decode v).map some := by
  cases v with
  | null => exact absurd rfl h
  | _ => rfl

/-! ## Fields that are written -/

namespace Source

variable {ms : List (String × Json)} {name : String} {aliases : List String} {v : Json}
  {decode : Decode α} {a : α} {index : Nat}

theorem readAt_of_decode (place : Nat) (h : decode v = .ok a) :
    readAt place decode v = .read a := by
  rw [readAt, h]

theorem occurrences_eq_nil {names : List String} {place : Nat}
    (h : ∀ n ∈ names, ms.lookup n = none) : occurrences names place ms = [] := by
  induction ms generalizing place with
  | nil => rfl
  | cons m rest ih =>
    obtain ⟨k, u⟩ := m
    have hk : k ∉ names := fun hmem => by simpa using h k hmem
    rw [occurrences, if_neg (by simpa using hk)]
    apply ih
    intro n hn
    have hne : n ≠ k := fun he => hk (he ▸ hn)
    rw [← Json.lookup_cons_of_ne hne u, h n hn]

/-- A name that stands there once, and under none of its other names, occurs at one place. -/
theorem occurrences_eq_singleton (place : Nat) (hnodup : (ms.map (·.1)).Nodup)
    (hv : ms.lookup name = some v) (haliases : ∀ n ∈ aliases, ms.lookup n = none) :
    ∃ found, occurrences (name :: aliases) place ms = [(found, v)] := by
  induction ms generalizing place with
  | nil => simp at hv
  | cons m rest ih =>
    obtain ⟨k, u⟩ := m
    obtain ⟨hk, hrest⟩ := List.nodup_cons.1 hnodup
    have hother : ∀ n ∈ aliases, n ≠ k := by
      rintro n hn rfl
      simpa using haliases n hn
    have hnone : ∀ n ∈ aliases, rest.lookup n = none := by
      intro n hn
      rw [← Json.lookup_cons_of_ne (hother n hn) u, haliases n hn]
    by_cases he : name = k
    · subst he
      obtain rfl : u = v := by simpa using hv
      -- after this member neither the name nor another one of the field comes again
      have hnil : occurrences (name :: aliases) (place + 1) rest = [] := by
        apply occurrences_eq_nil
        intro n hn
        obtain rfl | hn := List.mem_cons.1 hn
        · exact Json.lookup_eq_none_iff_notMem.2 hk
        · exact hnone n hn
      refine ⟨place, ?_⟩
      rw [occurrences, if_pos (by simp), hnil]
    · have hnot : k ∉ name :: aliases := by
        intro hmem
        obtain rfl | hmem := List.mem_cons.1 hmem
        · exact he rfl
        · exact hother k hmem rfl
      rw [occurrences, if_neg (by simpa using hnot)]
      exact ih (place + 1) hrest (by rw [← Json.lookup_cons_of_ne he u, hv]) hnone

section Written

variable {fields : List (String × Json)} (h : (fields.map (·.1)).Nodup)
include h

/-- A field that is written under its own name is read back, whatever order fields are listed in. -/
theorem field_of_mem {absent : Option α} (hmem : (name, v) ∈ fields)
    (haliases : ∀ n ∈ aliases, n ∉ fields.map (·.1)) (hdecode : decode v = .ok a) :
    (members (sortMembers fields)).field index name decode absent aliases = .read a := by
  have hlookup : (sortMembers fields).lookup name = some v := by
    rw [Json.lookup_sortMembers_of_nodup h]
    exact (Json.lookup_eq_some_iff_mem_of_nodup h).2 hmem
  have hother : ∀ n ∈ aliases, (sortMembers fields).lookup n = none := by
    intro n hn
    rw [Json.lookup_sortMembers_of_nodup h]
    exact Json.lookup_eq_none_iff_notMem.2 (haliases n hn)
  obtain ⟨place, hplace⟩ :=
    occurrences_eq_singleton 0 (Json.ascending_sortMembers fields).nodup hlookup hother
  simp only [field, hplace]
  exact readAt_of_decode place hdecode

/-- A field that is written under none of its names is what stands for it. -/
theorem field_of_notMem (hnone : ∀ n ∈ name :: aliases, n ∉ fields.map (·.1)) :
    (members (sortMembers fields)).field index name decode (some a) aliases = .read a := by
  have hother : ∀ n ∈ name :: aliases, (sortMembers fields).lookup n = none := by
    intro n hn
    rw [Json.lookup_sortMembers_of_nodup h]
    exact Json.lookup_eq_none_iff_notMem.2 (hnone n hn)
  simp only [field, occurrences_eq_nil hother]

theorem required_of_mem (hmem : (name, v) ∈ fields) (hdecode : decode v = .ok a) :
    (members (sortMembers fields)).required index name decode = .read a :=
  field_of_mem h hmem (by simp) hdecode

theorem defaulted_of_mem {absent : α} (hmem : (name, v) ∈ fields) (hdecode : decode v = .ok a) :
    (members (sortMembers fields)).defaulted index name decode absent = .read a :=
  field_of_mem h hmem (by simp) hdecode

theorem defaulted_of_notMem (hnone : name ∉ fields.map (·.1)) :
    (members (sortMembers fields)).defaulted index name decode a = .read a :=
  field_of_notMem h (by simpa using hnone)

theorem optional_of_mem_iff {toJson : α → Json} {o : Option α}
    (hmem : ∀ v, (name, v) ∈ fields ↔ o.map toJson = some v)
    (hdecode : ∀ a ∈ o, decode (toJson a) = .ok a) :
    (members (sortMembers fields)).optional index name decode =
      .read (o.filter fun a => decide (toJson a ≠ .null)) := by
  cases o with
  | none =>
    refine field_of_notMem h ?_
    simpa using hmem
  | some a =>
    refine field_of_mem h ((hmem _).2 rfl) (by simp) ?_
    by_cases hnull : toJson a = .null
    · rw [hnull, Option.filter_some_neg (by simpa using hnull)]
      rfl
    · rw [Decode.nullable_of_ne_null hnull, hdecode a rfl,
        Option.filter_some_pos (by simpa using hnull)]
      rfl

theorem optional_of_ne_null {toJson : α → Json} {o : Option α}
    (hmem : ∀ v, (name, v) ∈ fields ↔ o.map toJson = some v)
    (hdecode : ∀ a ∈ o, decode (toJson a) = .ok a) (hnull : ∀ a ∈ o, toJson a ≠ .null) :
    (members (sortMembers fields)).optional index name decode = .read o := by
  rw [optional_of_mem_iff h hmem hdecode]
  cases o with
  | none => rfl
  | some a => rw [Option.filter_some_pos (by simpa using hnull a rfl)]

theorem optional_text {o : Option String}
    (hmem : ∀ v, (name, v) ∈ fields ↔ o.map .text = some v) :
    (members (sortMembers fields)).optional index name Decode.text = .read o :=
  optional_of_ne_null h hmem (fun s _ => Decode.text_text s) (by simp)

end Written

/-! ## Fields that are read -/

/-- The parts of the source that fields are read from. -/
def values : Source → List Json
  | .members ms => ms.map (·.2)
  | .items vs _ => vs

variable {s : Source}

theorem mem_values_of_occurrences {names : List String} {place found : Nat}
    (h : (found, v) ∈ occurrences names place ms) : v ∈ ms.map (·.2) := by
  induction ms generalizing place with
  | nil => simp [occurrences] at h
  | cons m rest ih =>
    obtain ⟨k, u⟩ := m
    unfold occurrences at h
    split at h
    · obtain heq | h := List.mem_cons.1 h
      · injection heq with _ hv
        subst hv
        exact List.mem_cons_self
      · exact List.mem_cons_of_mem _ (ih h)
    · exact List.mem_cons_of_mem _ (ih h)

theorem readAt_eq_read {place : Nat} (h : readAt place decode v = .read a) : decode v = .ok a := by
  unfold readAt at h
  split at h
  next b hb =>
    injection h with hab
    rw [hb, hab]
  next => cases h

theorem decode_of_field {absent : Option α} (hnodup : (ms.map (·.1)).Nodup)
    (hv : ms.lookup name = some v) (haliases : ∀ n ∈ aliases, ms.lookup n = none)
    (h : (members ms).field index name decode absent aliases = .read a) : decode v = .ok a := by
  obtain ⟨place, hplace⟩ := occurrences_eq_singleton 0 hnodup hv haliases
  simp only [field, hplace] at h
  exact readAt_eq_read h

/-- A field is what stands for it where it is left out, or was read from a part of the source. -/
theorem field_eq_read {absent : Option α} (h : s.field index name decode absent aliases = .read a) :
    absent = some a ∨ ∃ u ∈ s.values, decode u = .ok a := by
  unfold field at h
  cases s with
  | members ms =>
    cases hfound : occurrences (name :: aliases) 0 ms with
    | nil =>
      cases absent with
      | none => simp [hfound] at h
      | some b => simpa [hfound] using Or.inl h
    | cons first more =>
      obtain ⟨place, u⟩ := first
      have hu : u ∈ (members ms).values := mem_values_of_occurrences (hfound ▸ List.mem_cons_self)
      cases more with
      | nil =>
        simp only [hfound] at h
        exact .inr ⟨u, hu, readAt_eq_read h⟩
      | cons second more =>
        -- a field that is there twice is not read
        cases hread : readAt place decode u <;> simp [hfound, hread] at h
  | items vs wanted =>
    cases hitem : vs[index]? with
    | none =>
      cases absent with
      | none => simp [hitem] at h
      | some b => simpa [hitem] using Or.inl h
    | some u =>
      simp only [hitem] at h
      exact .inr ⟨u, List.mem_of_getElem? hitem, readAt_eq_read h⟩

end Source

namespace Decode

variable {decode : Decode α}

theorem record_eq_ok {name : String} {count : Nat} {read : Source → Reading α} {v : Json} {a : α}
    (h : record name count read v = .ok a) :
    ∃ s : Source, s.values = v.children ∧ read s = .read a := by
  cases v with
  | object ms => exact ⟨.members ms, rfl, Reading.result_eq_ok.1 h⟩
  | list vs =>
    simp only [record] at h
    split at h
    next => cases h
    next b hb =>
      split at h
      · injection h with hab
        exact ⟨_, rfl, hab ▸ Reading.result_eq_ok.1 hb⟩
      · cases h
  | _ => cases h

theorem record_ofMembers {name : String} {count : Nat} {read : Source → Reading α}
    (fields : List (String × Json)) : record name count read (.ofMembers fields) =
      (read (.members (sortMembers fields))).result := rfl

/-! ## Lists and tables -/

theorem items_map {toJson : α → Json} {f : α → α} {as : List α}
    (h : ∀ a ∈ as, decode (toJson a) = .ok (f a)) :
    items decode (as.map toJson) = .ok (as.map f) := by
  induction as with
  | nil => rfl
  | cons a rest ih =>
    have hrest := ih fun b hb => h b (List.mem_cons_of_mem a hb)
    simp [items, h a List.mem_cons_self, hrest, Except.map]

theorem values_map {toJson : α → Json} {as : List (String × α)}
    (h : ∀ m ∈ as, decode (toJson m.2) = .ok m.2) :
    values decode (as.map fun (name, a) => (name, toJson a)) = .ok as := by
  induction as with
  | nil => rfl
  | cons m rest ih =>
    have hrest := ih fun b hb => h b (List.mem_cons_of_mem m hb)
    simp [values, h m List.mem_cons_self, hrest, Except.map]

theorem list_toJson {toJson : α → Json} {as : List α} (h : ∀ a ∈ as, decode (toJson a) = .ok a) :
    list decode (.list (as.map toJson)) = .ok as := by
  have hitems := items_map (f := id) h
  rwa [List.map_id] at hitems

theorem table_toJson {toJson : α → Json} {as : List (String × α)} (hascending : Ascending as)
    (h : ∀ m ∈ as, decode (toJson m.2) = .ok m.2) :
    table decode (.ofMembers (as.map fun (name, a) => (name, toJson a))) = .ok as := by
  -- the members are in order, so writing them leaves them as they are
  have hsorted := (hascending.map_values toJson).sortMembers_eq
  show values decode (sortMembers (as.map fun (name, a) => (name, toJson a))) = .ok as
  rw [hsorted]
  exact values_map h

theorem mem_of_items {vs : List Json} {as : List α} (h : items decode vs = .ok as) :
    ∀ a ∈ as, ∃ v ∈ vs, decode v = .ok a := by
  induction vs generalizing as with
  | nil =>
    obtain rfl := Except.ok.inj h
    simp
  | cons v rest ih =>
    unfold items at h
    cases hv : decode v with
    | error fault => simp [hv] at h
    | ok b =>
      cases hrest : items decode rest with
      | error fault => simp [hv, hrest, Except.map] at h
      | ok others =>
        obtain rfl : b :: others = as := by simpa [hv, hrest, Except.map] using h
        intro a ha
        obtain rfl | ha := List.mem_cons.1 ha
        · exact ⟨v, List.mem_cons_self, hv⟩
        · obtain ⟨u, hu, hdecode⟩ := ih hrest a ha
          exact ⟨u, List.mem_cons_of_mem v hu, hdecode⟩

theorem mem_of_list {v : Json} {as : List α} (h : list decode v = .ok as) :
    ∀ a ∈ as, ∃ u ∈ v.children, decode u = .ok a := by
  cases v with
  | list vs => exact mem_of_items h
  | _ => cases h

theorem mem_of_values {ms : List (String × Json)} {as : List (String × α)}
    (h : values decode ms = .ok as) : ∀ m ∈ as, ∃ v, (m.1, v) ∈ ms ∧ decode v = .ok m.2 := by
  induction ms generalizing as with
  | nil =>
    obtain rfl := Except.ok.inj h
    simp
  | cons first rest ih =>
    obtain ⟨k, v⟩ := first
    unfold values at h
    cases hv : decode v with
    | error fault => simp [hv] at h
    | ok b =>
      cases hrest : values decode rest with
      | error fault => simp [hv, hrest, Except.map] at h
      | ok others =>
        obtain rfl : (k, b) :: others = as := by simpa [hv, hrest, Except.map] using h
        intro m hm
        obtain rfl | hm := List.mem_cons.1 hm
        · exact ⟨v, List.mem_cons_self, hv⟩
        · obtain ⟨u, hu, hdecode⟩ := ih hrest m hm
          exact ⟨u, List.mem_cons_of_mem _ hu, hdecode⟩

theorem mem_of_table {v : Json} {as : List (String × α)} (h : table decode v = .ok as) :
    ∀ m ∈ as, ∃ u ∈ v.children, decode u = .ok m.2 := by
  cases v with
  | object ms =>
    intro m hm
    obtain ⟨u, hu, hdecode⟩ := mem_of_values h m hm
    exact ⟨u, List.mem_map_of_mem hu, hdecode⟩
  | _ => cases h

end Decode

end PlanCourier

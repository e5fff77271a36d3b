import PlanCourier.Proofs.Json.Record
import PlanCourier.Proofs.Package.Names

/-!
# Listings that are written and read

A listing that was read is written as records that are read as the same listing. Two things are
needed of it that not every listing has: none of its optional values is null, as null is read as no
value, and the services of a package ascend by their names, as they are written in this order. A
listing that was read has both.

Main statements:

- `Package.isClear_of_decode`: packages that are read have what is needed;
- `Package.decode_toJson`: such packages are read back;
- `listing_read_back`: every listing that is read is read back.
-/

namespace PlanCourier

open Json (Ascending sortMembers)

/-- What may be null is never read as a null value. -/
theorem Decode.ne_null_of_nullable_any {v : Json} {o : Option Json}
    (h : nullable any v = .ok o) : o ≠ some .null := by
  by_cases hv : v = .null
  · subst hv
    injection h with h
    simp [← h]
  · rw [nullable_of_ne_null hv] at h
    injection h with h
    simpa [← h] using hv

theorem Source.ne_null_of_optional_any {s : Source} {index : Nat} {name : String} {o : Option Json}
    (h : s.optional index name Decode.any = .read o) : o ≠ some .null := by
  obtain habsent | ⟨u, -, hu⟩ := field_eq_read h
  · obtain rfl := Option.some.inj habsent
    simp
  · exact Decode.ne_null_of_nullable_any hu

namespace Choice

theorem decode_toJson (c : Choice) : Choice.decode c.toJson = .ok c := by
  let fields := [("value", Json.text c.value), ("display", Json.text c.display)]
  have hnodup : (fields.map (·.1)).Nodup := by simp [fields]
  have hvalue : ("value", Json.text c.value) ∈ fields := by simp [fields]
  have hdisplay : ("display", Json.text c.display) ∈ fields := by simp [fields]
  -- the other name of the field is never written
  have halias : ∀ n ∈ ["display_value"], n ∉ fields.map (·.1) := by simp [fields]
  have hscalar : scalar (.text c.value) = .ok c.value := rfl
  refine (Decode.record_ofMembers fields).trans ?_
  rw [Source.required_of_mem hnodup hvalue hscalar,
    Source.field_of_mem hnodup hdisplay halias (Decode.text_text c.display)]
  rfl

end Choice

namespace Parameter

/-- The parameter has no null for a default. -/
def IsClear (p : Parameter) : Prop := p.default ≠ some .null

theorem isClear_of_decode {v : Json} {p : Parameter} (h : decode v = .ok p) : p.IsClear := by
  obtain ⟨s, -, hread⟩ := Decode.record_eq_ok h
  simp only [Reading.seq_eq_read, Reading.map_eq_read] at hread
  obtain ⟨_, _, ⟨_, default, ⟨_, _, ⟨_, _, ⟨_, -, rfl⟩, -, rfl⟩, -, rfl⟩, hdefault, rfl⟩, -, rfl⟩ :=
    hread
  exact Source.ne_null_of_optional_any hdefault

theorem decode_toJson {p : Parameter} (h : p.IsClear) : Parameter.decode p.toJson = .ok p := by
  let fields := ("name", Json.text p.name) :: ("type", Json.text p.kind) ::
    ((p.description.map fun d => ("description", Json.text d)).toList ++
      (p.default.map fun d => ("default", d)).toList ++
      (if p.choices.isEmpty then [] else [("choices", Json.list (p.choices.map Choice.toJson))]))
  have hnodup : (fields.map (·.1)).Nodup := by
    cases hd : p.description <;> cases hv : p.default <;> cases hc : p.choices <;>
      simp [fields, hd, hv, hc]
  have hname : ("name", Json.text p.name) ∈ fields := by simp [fields]
  have hkind : ("type", Json.text p.kind) ∈ fields := by simp [fields]
  have hdescription : ∀ v, ("description", v) ∈ fields ↔ p.description.map .text = some v := by
    simp [fields]
  have hdefault : ∀ v, ("default", v) ∈ fields ↔ p.default.map id = some v := by simp [fields]
  have hany : ∀ d ∈ p.default, Decode.any (id d) = .ok d := fun _ _ => rfl
  have hnull : ∀ d ∈ p.default, id d ≠ .null := by
    rintro d hd rfl
    exact h hd
  have hchoices : (Source.members (sortMembers fields)).defaulted 4 "choices"
      (Decode.list Choice.decode) [] = .read p.choices := by
    -- no choice is left out, and so is the field
    by_cases hempty : p.choices = []
    · rw [Source.defaulted_of_notMem hnodup (by simp [fields, hempty]), hempty]
    · have hmem : ("choices", Json.list (p.choices.map Choice.toJson)) ∈ fields := by
        simp [fields, hempty]
      exact Source.defaulted_of_mem hnodup hmem (Decode.list_toJson fun c _ => c.decode_toJson)
  refine (Decode.record_ofMembers fields).trans ?_
  rw [Source.required_of_mem hnodup hname (Decode.text_text p.name),
    Source.defaulted_of_mem hnodup hkind (Decode.text_text p.kind),
    Source.optional_text hnodup hdescription,
    Source.optional_of_ne_null hnodup hdefault hany hnull, hchoices]
  rfl

end Parameter

namespace PackageService

/-- The service has nowhere null for an optional value. -/
structure IsClear (s : PackageService) : Prop where
  args : ∀ p ∈ s.args, p.IsClear
  returns : s.returns ≠ some .null

theorem isClear_of_decode {v : Json} {s : PackageService} (h : decode v = .ok s) : s.IsClear := by
  obtain ⟨source, -, hread⟩ := Decode.record_eq_ok h
  simp only [Reading.seq_eq_read, Reading.map_eq_read] at hread
  obtain ⟨_, returns, ⟨args, hargs, rfl⟩, hreturns, rfl⟩ := hread
  refine ⟨?_, Source.ne_null_of_optional_any hreturns⟩
  obtain habsent | ⟨u, -, hu⟩ := Source.field_eq_read hargs
  · obtain rfl := Option.some.inj habsent
    simp
  · intro p hp
    obtain ⟨w, -, hw⟩ := Decode.mem_of_list hu p hp
    exact Parameter.isClear_of_decode hw

theorem decode_toJson {s : PackageService} (h : s.IsClear) :
    PackageService.decode s.toJson = .ok s := by
  let fields := ("args", Json.list (s.args.map Parameter.toJson)) ::
    (s.returns.map fun r => ("returns", r)).toList
  have hnodup : (fields.map (·.1)).Nodup := by cases hr : s.returns <;> simp [fields, hr]
  have hargs : ("args", Json.list (s.args.map Parameter.toJson)) ∈ fields := by simp [fields]
  have hlist := Decode.list_toJson fun p hp => Parameter.decode_toJson (h.args p hp)
  have hreturns : ∀ v, ("returns", v) ∈ fields ↔ s.returns.map id = some v := by simp [fields]
  have hany : ∀ r ∈ s.returns, Decode.any (id r) = .ok r := fun _ _ => rfl
  have hnull : ∀ r ∈ s.returns, id r ≠ .null := by
    rintro r hr rfl
    exact h.returns hr
  refine (Decode.record_ofMembers fields).trans ?_
  rw [Source.defaulted_of_mem hnodup hargs hlist,
    Source.optional_of_ne_null hnodup hreturns hany hnull]
  rfl

end PackageService

namespace Package

/-- The services ascend by their names and have nowhere null for an optional value. -/
structure IsClear (p : Package) : Prop where
  ascending : Ascending p.services
  services : ∀ m ∈ p.services, m.2.IsClear

theorem services_of_decode {v : Json} {services : List (String × PackageService)}
    (h : decodeServices v.normal = .ok services) :
    Ascending services ∧ ∀ m ∈ services, m.2.IsClear := by
  obtain ⟨s, hvalues, hread⟩ := Decode.record_eq_ok h
  obtain habsent | ⟨u, hu, htable⟩ := Source.field_eq_read hread
  · obtain rfl := Option.some.inj habsent
    simp [Ascending]
  · rw [hvalues] at hu
    obtain ⟨w, rfl⟩ := Json.exists_normal_of_mem_children hu
    refine ⟨Decode.ascending_of_table htable, fun m hm => ?_⟩
    obtain ⟨u, -, hdecode⟩ := Decode.mem_of_table htable m hm
    exact PackageService.isClear_of_decode hdecode

theorem isClear_of_decode {v : Json} {p : Package} (h : decode v.normal = .ok p) : p.IsClear := by
  obtain ⟨s, hvalues, hread⟩ := Decode.record_eq_ok h
  simp only [Reading.seq_eq_read, Reading.map_eq_read] at hread
  obtain ⟨_, services, ⟨_, _, ⟨_, -, rfl⟩, -, rfl⟩, hendpoint, rfl⟩ := hread
  obtain habsent | ⟨u, hu, hdecode⟩ := Source.field_eq_read hendpoint
  · obtain rfl := Option.some.inj habsent
    exact ⟨List.Pairwise.nil, by simp⟩
  · rw [hvalues] at hu
    obtain ⟨w, rfl⟩ := Json.exists_normal_of_mem_children hu
    obtain ⟨hascending, hservices⟩ := services_of_decode hdecode
    exact ⟨hascending, hservices⟩

theorem decodeServices_toJson {p : Package} (h : p.IsClear) :
    decodeServices (.ofMembers [("services",
      .ofMembers (p.services.map fun (name, s) => (name, s.toJson)))]) = .ok p.services := by
  let table := Json.ofMembers (p.services.map fun (name, s) => (name, s.toJson))
  have htable : Decode.table PackageService.decode table = .ok p.services :=
    Decode.table_toJson h.ascending fun m hm => PackageService.decode_toJson (h.services m hm)
  refine (Decode.record_ofMembers [("services", table)]).trans ?_
  rw [Source.defaulted_of_mem (by simp) (List.mem_singleton.2 rfl) htable]
  rfl

theorem decode_toJson {p : Package} (h : p.IsClear) : Package.decode p.toJson = .ok p := by
  let endpoint := Json.ofMembers [("services",
    .ofMembers (p.services.map fun (name, s) => (name, s.toJson)))]
  let fields := [("name", Json.text p.name), ("description", Json.ofOption .text p.description),
    ("endpoint", endpoint)]
  have hnodup : (fields.map (·.1)).Nodup := by simp [fields]
  have hname : ("name", Json.text p.name) ∈ fields := by simp [fields]
  have hdescription : ("description", Json.ofOption .text p.description) ∈ fields := by
    simp [fields]
  have hendpoint : ("endpoint", endpoint) ∈ fields := by simp [fields]
  -- a description that is not there is written as null
  have hnullable : Decode.nullable Decode.text (.ofOption .text p.description) =
      .ok p.description := by
    cases p.description <;> rfl
  have hread : (Source.members (sortMembers fields)).optional 1 "description" Decode.text =
      .read p.description := Source.field_of_mem hnodup hdescription (by simp) hnullable
  refine (Decode.record_ofMembers fields).trans ?_
  rw [Source.defaulted_of_mem hnodup hname (Decode.text_text p.name), hread,
    Source.defaulted_of_mem hnodup hendpoint (decodeServices_toJson h)]
  rfl

theorem isClear_nameFromKey {p : Package} (key : String) (h : p.IsClear) :
    (p.nameFromKey key).IsClear := by
  unfold nameFromKey
  split
  · exact ⟨h.ascending, h.services⟩
  · exact h

theorem nameFromKey_nameFromKey (key : String) (p : Package) :
    (p.nameFromKey key).nameFromKey key = p.nameFromKey key := by
  unfold nameFromKey
  by_cases hp : p.name.isEmpty <;> by_cases hkey : key.isEmpty <;> simp [hp, hkey]

end Package

/-- A listing that a service gives is read back from the records that are written of it. -/
theorem listing_read_back {v : Json} {l : Listing} (h : Listing.decode v.normal = .ok l) :
    Listing.decode l.toJson = .ok l := by
  have hascending := Listing.ascending_of_decode h
  obtain ⟨own, hown, hl⟩ := Listing.decode_eq_ok.1 h
  have hentries : ∀ m ∈ l, m.2.IsClear ∧ m.2.nameFromKey m.1 = m.2 := by
    intro m hm
    rw [hl] at hm
    obtain ⟨⟨key, p⟩, hp, rfl⟩ := List.mem_map.1 hm
    obtain ⟨u, hu, hdecode⟩ := Decode.mem_of_table hown _ hp
    obtain ⟨w, rfl⟩ := Json.exists_normal_of_mem_children hu
    exact ⟨Package.isClear_nameFromKey key (Package.isClear_of_decode hdecode),
      Package.nameFromKey_nameFromKey key p⟩
  refine Listing.decode_eq_ok.2 ⟨l, ?_, ?_⟩
  · exact Decode.table_toJson hascending fun m hm => Package.decode_toJson (hentries m hm).1
  · refine (List.map_id l).symm.trans (List.map_congr_left fun m hm => ?_)
    exact Prod.ext rfl (hentries m hm).2.symm

namespace Sample

/-- A listing whose records leave out, or have null for, what they may, and give the rest by name
or by place. -/
def looseListing : Json :=
  .object [
    ("lama", .object [
      ("description", .null),
      ("endpoint", .object [("services", .object [
        ("solve", .object [
          ("returns", .null),
          ("args", .list [
            .object [("name", .text "mode"), ("default", .null), ("choices", .list [
              .object [("value", .ofInt 1), ("display_value", .text "fast")],
              .list [.text "2"]])],
            .list [.text "limit", .text "int", .null, .ofInt 60]])])])])]),
    ("ff", .list [.text "FF"])]

/-- What is read of it. -/
def strictListing : Listing :=
  [("ff", ⟨"FF", none, []⟩),
    ("lama", ⟨"lama", none, [("solve",
      ⟨[⟨"mode", "", none, none, [⟨"1", "fast"⟩, ⟨"2", ""⟩]⟩,
        ⟨"limit", "int", none, some (.ofInt 60), []⟩], none⟩)]⟩)]

end Sample

theorem loose_listing_read_back :
    Listing.decode Sample.looseListing.normal = .ok Sample.strictListing ∧
    Sample.strictListing.toJson ≠ Sample.looseListing.normal ∧
    Listing.decode Sample.strictListing.toJson = .ok Sample.strictListing := by
  have hdecode : Listing.decode Sample.looseListing.normal = .ok Sample.strictListing := rfl
  exact ⟨hdecode, by decide, listing_read_back hdecode⟩

end PlanCourier

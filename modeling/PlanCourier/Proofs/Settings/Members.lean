import PlanCourier.Proofs.Json.Passing
import PlanCourier.Proofs.Json.Spelling
import PlanCourier.Settings

/-!
# The members of a settings file

A settings file whose text is an object is read by those members alone that have a name of the
field, in their order: a first one has to be a string that stands for a text, and there must be no
second one. All other members are passed over, whatever their values are.

Main statements:

- `readMembers_member`: what one member does to the reading of the others;
- `readsAs_ofText`: what a file is read as, by its members;
- `ReadsAs.eq_ok_iff`: when that is settings.
-/

namespace PlanCourier

open Json (IsBlanks Derives EndsNumber Quotes IsMember AreMembers IsObjectOf)

namespace Settings

variable {ms : List (String × List Char)} {m : String × List Char} {cs value gap rest : List Char}

/-! ## The value of the field -/

/-- A value is read as a text if it is a string that stands for one, and else refused. -/
theorem readText_of_derives (hgap : IsBlanks gap) (h : Derives .value value) (rest : List Char) :
    (∃ t, Quotes value t ∧ readText (gap ++ (value ++ rest)) = .ok (t, rest)) ∨
      ((∀ t, ¬ Quotes value t) ∧ ∃ e, readText (gap ++ (value ++ rest)) = .error e) := by
  unfold readText
  rw [Json.skipGap_append hgap]
  obtain ⟨parts, hparts, rfl⟩ | ⟨c, more, rfl, hshown, hquote⟩ := Json.isString_or_exists_cons h
  · have hend := Json.skipString_append hparts rest
    rw [List.cons_append, Json.skipGap_cons rfl, List.append_assoc, List.singleton_append]
    cases hread : Json.readString (parts.flatten ++ '"' :: rest) with
    | none =>
      refine .inr ⟨fun t ht => ?_, .malformed, by simp only [hread]⟩
      cases hread.symm.trans (Json.quotes_iff.1 ht rest)
    | some read =>
      obtain ⟨s, left⟩ := read
      -- what is read of the string ends where the string does
      obtain rfl := Option.some.inj (hend.symm.trans (Json.skipString_of_readString hread))
      obtain ⟨body, heq, hbody⟩ := Json.spells_of_readString hread
      obtain rfl := List.append_cancel_right heq
      exact .inl ⟨String.ofList s, ⟨_, rfl, by rwa [String.toList_ofList]⟩, by simp only [hread]⟩
  · rw [List.cons_append, Json.skipGap_cons hshown]
    refine .inr ⟨?_, ?_⟩
    · rintro t ⟨body, heq, -⟩
      exact hquote (List.cons.inj heq).1
    · split
      next heq => exact absurd (List.cons.inj heq).1 hquote
      next => exact ⟨_, rfl⟩

/-! ## The members -/

/-- The members that have a name of the field. -/
def named (ms : List (String × List Char)) : List (String × List Char) :=
  ms.filter fun m => fieldNames.contains m.1

/-- What the members with a name of the field come to, when `url` was read before. -/
inductive ReadsAs : Option String → List (String × List Char) → Except TextFault Settings → Prop
  | done {url : String} : ReadsAs (some url) [] (.ok ⟨url⟩)
  | missing : ReadsAs none [] (.error (.misfit (.missing "base_url")))
  | text {m : String × List Char} {ms : List (String × List Char)} {url : String}
      {r : Except TextFault Settings} : Quotes m.2 url → ReadsAs (some url) ms r →
      ReadsAs none (m :: ms) r
  | other {m : String × List Char} {ms : List (String × List Char)} {e : TextFault} :
      (∀ url, ¬ Quotes m.2 url) → ReadsAs none (m :: ms) (.error e)
  | twice {m : String × List Char} {ms : List (String × List Char)} {url : String} :
      ReadsAs (some url) (m :: ms) (.error (.misfit (.twice "base_url")))

theorem next_append (hafter : IsBlanks gap) (fuel : Nat) (url : Option String) (cs : List Char) :
    readMembers.next fuel url (gap ++ cs) = readMembers.next fuel url cs := by
  rw [readMembers.next, readMembers.next, Json.skipGap_append hafter]

theorem passColon_append (h : IsBlanks gap) (cs : List Char) :
    passColon (gap ++ ':' :: cs) = .ok cs := by
  rw [passColon, Json.skipGap_append h]
  rfl

theorem readMembers_member (h : IsMember m cs) (hrest : EndsNumber rest) (fuel : Nat)
    (url : Option String) : ∃ gap after, IsBlanks gap ∧ IsBlanks after ∧ Derives .value m.2 ∧
      readMembers (fuel + 1) url (cs ++ rest) =
        if fieldNames.contains m.1 then
          if url.isSome then .error (.misfit (.twice "base_url"))
          else readText (gap ++ (m.2 ++ (after ++ rest))) >>= fun (u, rest) =>
            readMembers.next fuel (some u) rest
        else readMembers.next fuel url rest := by
  obtain @⟨before, quoted, between, gap, value, after, name, hbefore, ⟨spelled, rfl, hname⟩,
    hbetween, hgap, hvalue, hafter⟩ := h
  refine ⟨gap, after, hgap, hafter, hvalue, ?_⟩
  have hskip := Json.skipValue_of_derives hgap hvalue (hrest.blanks hafter)
  simp only [List.append_assoc, List.cons_append, List.nil_append]
  rw [readMembers, Json.skipGap_append hbefore, Json.skipGap_cons rfl]
  simp only [Json.readString_of_spells hname, String.ofList_toList, passColon_append hbetween]
  split
  · split
    · rfl
    · rfl
  · simp only [bind, Except.bind, hskip]
    exact next_append hafter fuel url rest

theorem readsAs_cons {fuel : Nat} {left : List Char} (hm : IsMember m cs) (hrest : EndsNumber rest)
    (hnext : ∀ url, ∃ r, ReadsAs url (named ms) r ∧
      readMembers.next fuel url rest = r.map fun s => (s, left)) (url : Option String) :
    ∃ r, ReadsAs url (named (m :: ms)) r ∧
      readMembers (fuel + 1) url (cs ++ rest) = r.map fun s => (s, left) := by
  obtain ⟨gap, after, hgap, hafter, hvalue, hread⟩ := readMembers_member hm hrest fuel url
  rw [hread, named, List.filter_cons]
  cases hknown : fieldNames.contains m.1 with
  | false => exact hnext url
  | true =>
    cases url with
    | some u => exact ⟨_, .twice, rfl⟩
    | none =>
      obtain ⟨u, hu, hok⟩ | ⟨hnone, e, herror⟩ := readText_of_derives hgap hvalue (after ++ rest)
      · obtain ⟨r, hr, hmore⟩ := hnext (some u)
        refine ⟨r, .text hu hr, ?_⟩
        rw [hok]
        exact (next_append hafter fuel (some u) rest).trans hmore
      · refine ⟨.error e, .other hnone, ?_⟩
        rw [herror]
        rfl

/-- The members of an object, read up to its end. -/
theorem readsAs_of_areMembers (h : AreMembers ms cs) {fuel : Nat} (hfuel : ms.length ≤ fuel)
    (url : Option String) (rest : List Char) : ∃ r, ReadsAs url (named ms) r ∧
      readMembers fuel url (cs ++ '\x7d' :: rest) = r.map fun s => (s, rest) := by
  have hbrace := @Json.endsNumber_mark '\x7d' (by decide)
  have hcomma := @Json.endsNumber_mark ',' (by decide)
  induction h generalizing fuel url with
  | @last m cs hm =>
    obtain ⟨fuel, rfl⟩ : ∃ n, fuel = n + 1 := Nat.exists_eq_add_one.2 hfuel
    refine readsAs_cons hm (hbrace rest) (fun url => ?_) url
    cases url with
    | none => exact ⟨_, .missing, by rw [readMembers.next]; rfl⟩
    | some u => exact ⟨_, .done, by rw [readMembers.next]; rfl⟩
  | @more m ms cs more hm _ ih =>
    rw [List.length_cons] at hfuel
    obtain ⟨fuel, rfl⟩ : ∃ n, fuel = n + 1 := Nat.exists_eq_add_one.2 (by omega)
    rw [List.append_assoc, List.cons_append]
    refine readsAs_cons hm (hcomma _) (fun url => ?_) url
    have hshort : ms.length ≤ fuel := by omega
    obtain ⟨r, hr, hmore⟩ := ih hshort url
    refine ⟨r, hr, ?_⟩
    rw [readMembers.next]
    exact hmore

/-- A file whose text is an object is read by its members with a name of the field. -/
theorem readsAs_ofText {text : String} (h : IsObjectOf ms text.toList) :
    ReadsAs none (named ms) (ofText text) := by
  unfold ofText
  generalize text.toList = cs at h
  cases h with
  | @empty before within after hbefore hwithin hafter =>
    rw [readStart, Json.skipGap_append hbefore, Json.skipGap_cons rfl]
    simp only [Json.skipGap_append hwithin, Json.skipGap_cons (rfl : Json.isGap '\x7d' = false)]
    exact .missing
  | @members ms before cs after hbefore hms hafter =>
    obtain ⟨shown, hshown, hskip⟩ := hms.exists_skipGap
    have hfuel : ms.length ≤ ('"' :: (shown ++ '\x7d' :: after)).length + 1 := by
      have hlength := hshown.length_le
      simp only [List.length_cons, List.length_append] at hlength ⊢
      omega
    obtain ⟨r, hr, hread⟩ := readsAs_of_areMembers hshown hfuel none after
    have hend : Json.skipGap after = [] := List.dropWhile_eq_nil_iff.2 hafter
    have hstart : readStart (before ++ '\x7b' :: (cs ++ '\x7d' :: after)) =
        r.map fun s => (s, after) := by
      rw [readStart, Json.skipGap_append hbefore, Json.skipGap_cons rfl]
      simp only [hskip]
      exact hread
    rw [hstart]
    cases r with
    | error e => exact hr
    | ok s =>
      change ReadsAs none (named ms)
        (if (Json.skipGap after).isEmpty then .ok s else .error .malformed)
      rw [hend]
      exact hr

/-- Settings are read just if one member has a name of the field and stands for their text. -/
theorem ReadsAs.eq_ok_iff {r : Except TextFault Settings} {u : String} (h : ReadsAs none ms r) :
    r = .ok ⟨u⟩ ↔ ∃ m, ms = [m] ∧ Quotes m.2 u := by
  cases h with
  | missing => simp
  | text ht hmore =>
    cases hmore with
    | done =>
      constructor
      · intro heq
        cases heq
        exact ⟨_, rfl, ht⟩
      · rintro ⟨_, ⟨⟩, hu⟩
        rw [ht.unique hu]
    | twice => simp
  | other hnone =>
    simp only [reduceCtorEq, false_iff]
    rintro ⟨_, ⟨⟩, hu⟩
    exact hnone u hu

theorem two_le_length_named {name other : String} (hne : name ≠ other)
    (hname : name ∈ fieldNames) (hother : other ∈ fieldNames) (h : name ∈ ms.map Prod.fst)
    (h' : other ∈ ms.map Prod.fst) : 2 ≤ (named ms).length := by
  obtain ⟨m, hm, rfl⟩ := List.mem_map.1 h
  obtain ⟨m', hm', rfl⟩ := List.mem_map.1 h'
  have hmem : m ∈ named ms := List.mem_filter.2 ⟨hm, by simpa using hname⟩
  have hmem' : m' ∈ named ms := List.mem_filter.2 ⟨hm', by simpa using hother⟩
  rcases hnamed : named ms with _ | ⟨n, _ | ⟨n', more⟩⟩
  · rw [hnamed] at hmem
    cases hmem
  · rw [hnamed, List.mem_singleton] at hmem hmem'
    exact absurd (by rw [hmem, hmem']) hne
  · simp

end Settings

end PlanCourier

import PlanCourier.Document

/-!
# The selection of a pair

Documents are chosen in two steps. The domain comes first: the document that was used last for it, if
it is still there, else the first one of the kind that comes first for domains. Then the problem is
chosen among the documents that have another id, in the same way and with the kinds the other way
round. So the second step finds a document just where two of them have different ids, whichever one
the first step took.

Main statements:

- `isFirst_of_head?`: the first choice is the first document of the most preferred kind;
- `id_of_pick` and `pick_of_absent`: what is picked for a wanted id;
- `exists_pair_iff`: when there is a pair;
- `selection_of_pair`: which documents are selected, and what is said when there are none.
-/

namespace PlanCourier.Document

variable {ds : List Document} {d p : Document} {lastDomain lastProblem wanted : Option String}

/-! ## Documents kind by kind -/

theorem mem_arranged {kinds : List DocumentKind} (h : ∀ k, k ∈ kinds) :
    d ∈ arranged kinds ds ↔ d ∈ ds := by
  simp [arranged, h]

theorem mem_domainChoices : d ∈ domainChoices ds ↔ d ∈ ds :=
  mem_arranged fun k => by cases k <;> decide

theorem mem_problemChoices : d ∈ problemChoices ds ↔ d ∈ ds :=
  mem_arranged fun k => by cases k <;> decide

/-- A document with the text of a problem is the first choice for the domain only where every
document has such a text. -/
theorem kind_of_first_choice (h : (domainChoices ds).head? = some d) (hk : d.kind = .problem) :
    ∀ e ∈ ds, e.kind = .problem := by
  intro e he
  refine Decidable.by_contra fun hne => ?_
  have hfirst : domainChoices ds = (ds.filter (·.kind == .domain) ++
      ds.filter (·.kind == .unknown)) ++ ds.filter (·.kind == .problem) := by
    simp [domainChoices, arranged]
  have hmem : e ∈ ds.filter (·.kind == .domain) ++ ds.filter (·.kind == .unknown) := by
    cases hkind : e.kind <;> simp_all
  have hsome : (ds.filter (·.kind == .domain) ++ ds.filter (·.kind == .unknown)).head?.isSome :=
    List.isSome_head?.2 (List.ne_nil_of_mem hmem)
  rw [hfirst, List.head?_append, Option.or_of_isSome hsome] at h
  have hd := List.mem_of_mem_head? h
  simp [hk] at hd

theorem arranged_cons (k : DocumentKind) (kinds : List DocumentKind) (ds : List Document) :
    arranged (k :: kinds) ds = ds.filter (·.kind == k) ++ arranged kinds ds := rfl

theorem filter_arranged (keep : Document → Bool) (kinds : List DocumentKind) (ds : List Document) :
    (arranged kinds ds).filter keep = arranged kinds (ds.filter keep) := by
  induction kinds with
  | nil => rfl
  | cons k kinds ih =>
    rw [arranged_cons, arranged_cons, List.filter_append, ih]
    simp only [List.filter_filter, Bool.and_comm]

/-- How far down the kind of a document stands in an order of kinds. -/
def rank (kinds : List DocumentKind) (d : Document) : Nat := kinds.idxOf d.kind

theorem rank_cons_self {k : DocumentKind} (kinds : List DocumentKind) (h : d.kind = k) :
    rank (k :: kinds) d = 0 := by
  rw [rank, h, List.idxOf_cons_self]

theorem rank_cons_of_ne {k : DocumentKind} (kinds : List DocumentKind) (h : d.kind ≠ k) :
    rank (k :: kinds) d = rank kinds d + 1 := by
  rw [rank, List.idxOf_cons, beq_false_of_ne (Ne.symm h)]
  rfl

/-- The document is the first one of the most preferred kind: the documents before it are of less
preferred kinds, and none after it is of a more preferred one. -/
def IsFirst (kinds : List DocumentKind) (ds : List Document) (d : Document) : Prop :=
  ∃ before after, ds = before ++ d :: after ∧
    (∀ e ∈ before, rank kinds d < rank kinds e) ∧ ∀ e ∈ after, rank kinds d ≤ rank kinds e

theorem isFirst_of_head? {kinds : List DocumentKind} (h : (arranged kinds ds).head? = some d) :
    IsFirst kinds ds d := by
  induction kinds with
  | nil => simp [arranged] at h
  | cons k kinds ih =>
    rw [arranged_cons, List.head?_append, List.head?_filter] at h
    cases hfound : ds.find? (·.kind == k) with
    | some f =>
      obtain rfl : f = d := by simpa [hfound] using h
      obtain ⟨hk, before, after, rfl, hbefore⟩ := List.find?_eq_some_iff_append.1 hfound
      rw [beq_iff_eq] at hk
      refine ⟨before, after, rfl, fun e he => ?_, fun e _ => ?_⟩
      · have hne : e.kind ≠ k := by simpa using hbefore e he
        rw [rank_cons_self kinds hk, rank_cons_of_ne kinds hne]
        exact Nat.succ_pos _
      · rw [rank_cons_self kinds hk]
        exact Nat.zero_le _
    | none =>
      -- no document is of this kind, so all ranks are one more than without it
      have hne : ∀ e ∈ ds, rank (k :: kinds) e = rank kinds e + 1 := by
        intro e he
        exact rank_cons_of_ne kinds (by simpa using List.find?_eq_none.1 hfound e he)
      rw [hfound, Option.none_or] at h
      obtain ⟨before, after, rfl, hbefore, hafter⟩ := ih h
      have hd := hne d (by simp)
      refine ⟨before, after, rfl, fun e he => ?_, fun e he => ?_⟩
      · rw [hd, hne e (by simp [he])]
        exact Nat.succ_lt_succ (hbefore e he)
      · rw [hd, hne e (by simp [he])]
        exact Nat.succ_le_succ (hafter e he)

/-! ## What is picked -/

theorem id_of_pick {id : String} {choices : List Document} (h : pick (some id) choices = some d)
    (hid : ∃ e ∈ choices, e.id = id) : d.id = id := by
  unfold pick at h
  cases hfound : choices.find? (·.id == id) with
  | some e =>
    obtain rfl : e = d := by simpa [hfound] using h
    simpa using List.find?_some hfound
  | none =>
    obtain ⟨e, he, rfl⟩ := hid
    simpa using List.find?_eq_none.1 hfound e he

theorem pick_of_absent {choices : List Document}
    (h : ∀ id, wanted = some id → ∀ e ∈ choices, e.id ≠ id) : pick wanted choices = choices.head? := by
  cases wanted with
  | none => rfl
  | some id =>
    have hnone : choices.find? (·.id == id) = none :=
      List.find?_eq_none.2 fun e he => by simpa using h id rfl e he
    rw [pick, Option.bind_some, hnone, Option.none_or]

theorem exists_pick (wanted : Option String) {choices : List Document} (h : d ∈ choices) :
    ∃ e, pick wanted choices = some e := by
  obtain ⟨e, he⟩ := Option.isSome_iff_exists.1 (List.isSome_head?.2 (List.ne_nil_of_mem h))
  unfold pick
  cases wanted.bind fun id => choices.find? (·.id == id) with
  | some f => exact ⟨f, rfl⟩
  | none => exact ⟨e, he⟩

/-! ## Pairs -/

theorem selectPair_eq_ok : selectPair ds lastDomain lastProblem = .ok (d, p) ↔
    pick lastDomain (domainChoices ds) = some d ∧
      pick lastProblem ((problemChoices ds).filter (·.id != d.id)) = some p := by
  cases hdomain : pick lastDomain (domainChoices ds) with
  | none => simp [selectPair, hdomain]
  | some e =>
    cases hproblem : pick lastProblem ((problemChoices ds).filter (·.id != e.id)) with
    | none =>
      simp only [selectPair, hdomain, hproblem, Option.some.injEq, reduceCtorEq, false_iff, not_and]
      rintro rfl
      simp [hproblem]
    | some q =>
      simp only [selectPair, hdomain, hproblem, Except.ok.injEq, Prod.mk.injEq, Option.some.injEq]
      refine and_congr_right ?_
      rintro rfl
      rw [hproblem, Option.some.injEq]

/-- The two documents of a pair are different ones of those that were read. -/
theorem mem_of_selectPair (h : selectPair ds lastDomain lastProblem = .ok (d, p)) :
    d ∈ ds ∧ p ∈ ds ∧ p.id ≠ d.id := by
  obtain ⟨hd, hp⟩ := selectPair_eq_ok.1 h
  have hmem := List.mem_filter.1 (pick_mem hp)
  exact ⟨mem_domainChoices.1 (pick_mem hd), mem_problemChoices.1 hmem.1, by simpa using hmem.2⟩

theorem id_of_named_domain {x : String} (h : selectPair ds (some x) lastProblem = .ok (d, p))
    (hx : ∃ e ∈ ds, e.id = x) : d.id = x := by
  refine id_of_pick (selectPair_eq_ok.1 h).1 ?_
  simpa only [mem_domainChoices] using hx

/-- The document that is named as the problem is the problem, unless it was taken for the domain. -/
theorem id_of_named_problem {y : String} (h : selectPair ds lastDomain (some y) = .ok (d, p))
    (hy : ∃ e ∈ ds, e.id = y) (hd : d.id ≠ y) : p.id = y := by
  refine id_of_pick (selectPair_eq_ok.1 h).2 ?_
  obtain ⟨e, he, rfl⟩ := hy
  exact ⟨e, List.mem_filter.2 ⟨mem_problemChoices.2 he, by simpa using Ne.symm hd⟩, rfl⟩

theorem exists_pair {a b : Document} (ha : a ∈ ds) (hb : b ∈ ds) (hne : a.id ≠ b.id)
    (lastDomain lastProblem : Option String) :
    ∃ d p, selectPair ds lastDomain lastProblem = .ok (d, p) := by
  obtain ⟨d, hd⟩ := exists_pick lastDomain (mem_domainChoices.2 ha)
  -- one of the two has another id than the domain, whichever that is
  obtain ⟨e, he, hother⟩ : ∃ e ∈ ds, e.id ≠ d.id := by
    by_cases h : a.id = d.id
    · exact ⟨b, hb, fun hbd => hne (h.trans hbd.symm)⟩
    · exact ⟨a, ha, h⟩
  have hmem : e ∈ (problemChoices ds).filter (·.id != d.id) :=
    List.mem_filter.2 ⟨mem_problemChoices.2 he, by simpa using hother⟩
  obtain ⟨p, hp⟩ := exists_pick lastProblem hmem
  exact ⟨d, p, selectPair_eq_ok.2 ⟨hd, hp⟩⟩

theorem exists_pair_iff (ds : List Document) (lastDomain lastProblem : Option String) :
    (∃ d p, selectPair ds lastDomain lastProblem = .ok (d, p)) ↔
      ∃ a ∈ ds, ∃ b ∈ ds, a.id ≠ b.id := by
  constructor
  · rintro ⟨d, p, h⟩
    obtain ⟨hd, hp, hne⟩ := mem_of_selectPair h
    exact ⟨p, hp, d, hd, hne⟩
  · rintro ⟨a, ha, b, hb, hne⟩
    exact exists_pair ha hb hne lastDomain lastProblem

theorem fault_of_selectPair {fault : DocumentFault}
    (h : selectPair ds lastDomain lastProblem = .error fault) : fault = incomplete ds := by
  unfold selectPair at h
  split at h
  · exact (Except.error.inj h).symm
  · split at h
    · exact (Except.error.inj h).symm
    · cases h

/-- A domain and a problem among the documents, as they are to be for what was used last. -/
structure Selected (ds : List Document) (lastDomain lastProblem : Option String)
    (d p : Document) : Prop where
  domain_mem : d ∈ ds
  problem_mem : p ∈ ds
  ids_differ : d.id ≠ p.id
  /-- The domain that was used last is taken again. -/
  domain_again : ∀ x, lastDomain = some x → (∃ e ∈ ds, e.id = x) → d.id = x
  /-- So is the problem, if it is not the domain. -/
  problem_again : ∀ y, lastProblem = some y → (∃ e ∈ ds, e.id = y) → y ≠ d.id → p.id = y
  domain_first : (∀ x, lastDomain = some x → ∀ e ∈ ds, e.id ≠ x) →
    IsFirst [.domain, .unknown, .problem] ds d
  problem_first : (∀ y, lastProblem = some y → y = d.id ∨ ∀ e ∈ ds, e.id ≠ y) →
    IsFirst [.problem, .unknown, .domain] (ds.filter (·.id != d.id)) p

theorem selected_of_selectPair (h : selectPair ds lastDomain lastProblem = .ok (d, p)) :
    Selected ds lastDomain lastProblem d p := by
  obtain ⟨hdomain, hproblem⟩ := selectPair_eq_ok.1 h
  obtain ⟨hd, hp, hne⟩ := mem_of_selectPair h
  refine ⟨hd, hp, hne.symm, ?_, ?_, fun habsent => ?_, fun habsent => ?_⟩
  · rintro x rfl hx
    exact id_of_named_domain h hx
  · rintro y rfl hy hyd
    exact id_of_named_problem h hy (Ne.symm hyd)
  · rw [pick_of_absent fun x hx e he => habsent x hx e (mem_domainChoices.1 he)] at hdomain
    exact isFirst_of_head? hdomain
  · rw [problemChoices, filter_arranged] at hproblem
    rw [pick_of_absent fun y hy e he => ?_] at hproblem
    · exact isFirst_of_head? hproblem
    · obtain ⟨hmem, hid⟩ := List.mem_filter.1 (mem_problemChoices.1 he)
      obtain rfl | hall := habsent y hy
      · simpa using hid
      · exact hall e hmem

/-- The selection of a domain and a problem, for any documents and whatever was used last. There is
a pair just where two of the documents have different ids. Otherwise the fault lists all ids in
order. -/
theorem selection_of_pair (ds : List Document) (lastDomain lastProblem : Option String) :
    ((∃ d p, selectPair ds lastDomain lastProblem = .ok (d, p)) ↔
      ∃ a ∈ ds, ∃ b ∈ ds, a.id ≠ b.id) ∧
    (∀ fault, selectPair ds lastDomain lastProblem = .error fault ↔
      (∀ a ∈ ds, ∀ b ∈ ds, a.id = b.id) ∧
        fault = .incomplete (if ds = [] then "no documents" else ", ".intercalate (ds.map (·.id)))) ∧
    ∀ d p, selectPair ds lastDomain lastProblem = .ok (d, p) →
      Selected ds lastDomain lastProblem d p := by
  have hpair := exists_pair_iff ds lastDomain lastProblem
  have hlisted : incomplete ds =
      .incomplete (if ds = [] then "no documents" else ", ".intercalate (ds.map (·.id))) := by
    simp only [incomplete, List.isEmpty_iff]
  refine ⟨hpair, fun fault => ?_, fun d p => selected_of_selectPair⟩
  rw [← hlisted]
  constructor
  · intro h
    refine ⟨fun a ha b hb => Decidable.by_contra fun hne => ?_, fault_of_selectPair h⟩
    obtain ⟨d, p, hok⟩ := hpair.2 ⟨a, ha, b, hb, hne⟩
    rw [h] at hok
    cases hok
  · rintro ⟨hsame, rfl⟩
    cases h : selectPair ds lastDomain lastProblem with
    | error fault => rw [fault_of_selectPair h]
    | ok pair =>
      obtain ⟨a, ha, b, hb, hne⟩ := hpair.1 ⟨pair.1, pair.2, h⟩
      exact absurd (hsame a ha b hb) hne

/-- The document that was used last as the problem is the domain, for it alone has such a text. -/
example : selectPair [⟨"a", "(problem)", .problem⟩, ⟨"b", "", .unknown⟩, ⟨"c", "(domain)", .domain⟩]
    none (some "c") = .ok (⟨"c", "(domain)", .domain⟩, ⟨"a", "(problem)", .problem⟩) := rfl

end PlanCourier.Document

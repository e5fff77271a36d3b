import PlanCourier.Proofs.Document.Selection
import PlanCourier.Proofs.Order.Stable

/-!
# The order of the choices

The choices for a role are the documents themselves, kind by kind. Each kind is gone through once, so
every document stands among them once, and the documents of one kind stay as they stood. The two
roles prefer the kinds the other way round.

Main statements:

- `filter_kind_arranged`: documents of one kind stand among the choices as they stood before;
- `stablySorted_arranged`: the choices are the documents in stable order of their kinds;
- `choices_kind_by_kind`: the choices for the two roles, which are each other's reverse by blocks.
-/

namespace PlanCourier.Document

variable {kinds : List DocumentKind} {ds : List Document} {d e : Document} {k : DocumentKind}

/-- A pass over a kind that no document has finds nothing, and the pass over theirs finds all. -/
theorem arranged_of_kind (hk : k ∈ kinds) (hnodup : kinds.Nodup) (h : ∀ d ∈ ds, d.kind = k) :
    arranged kinds ds = ds := by
  have hnone : ∀ {ls : List DocumentKind}, k ∉ ls → arranged ls ds = [] := by
    intro ls hls
    refine List.eq_nil_iff_forall_not_mem.2 fun d hd => ?_
    obtain ⟨l, hl, hdl⟩ := List.mem_flatMap.1 hd
    obtain ⟨hmem, hkind⟩ := List.mem_filter.1 hdl
    rw [beq_iff_eq, h d hmem] at hkind
    exact hls (hkind ▸ hl)
  induction kinds with
  | nil => cases hk
  | cons l rest ih =>
    obtain ⟨hl, hrest⟩ := List.nodup_cons.1 hnodup
    rw [arranged_cons]
    by_cases hkl : k = l
    · subst hkl
      rw [hnone hl, List.append_nil, List.filter_eq_self]
      exact fun d hd => beq_iff_eq.2 (h d hd)
    · have hpass : ds.filter (·.kind == l) = [] := by
        refine List.filter_eq_nil_iff.2 fun d hd => ?_
        simpa [h d hd] using hkl
      rw [hpass, List.nil_append]
      exact ih ((List.mem_cons.1 hk).resolve_left hkl) hrest

theorem filter_kind_arranged (hk : k ∈ kinds) (hnodup : kinds.Nodup) (ds : List Document) :
    (arranged kinds ds).filter (·.kind == k) = ds.filter (·.kind == k) := by
  rw [filter_arranged]
  refine arranged_of_kind hk hnodup fun d hd => ?_
  simpa using (List.mem_filter.1 hd).2

theorem kind_eq_of_rank_eq (hall : ∀ k, k ∈ kinds) (h : rank kinds d = rank kinds e) :
    d.kind = e.kind :=
  (List.idxOf_inj (hall d.kind)).1 h

theorem ascending_arranged (hnodup : kinds.Nodup) (ds : List Document) :
    (arranged kinds ds).Pairwise fun a b => rank kinds a ≤ rank kinds b := by
  induction kinds with
  | nil => exact List.Pairwise.nil
  | cons l rest ih =>
    obtain ⟨hl, hrest⟩ := List.nodup_cons.1 hnodup
    have hfirst : ∀ a ∈ ds.filter (·.kind == l), rank (l :: rest) a = 0 := fun a ha =>
      rank_cons_self rest (by simpa using (List.mem_filter.1 ha).2)
    have hlater : ∀ a ∈ arranged rest ds, rank (l :: rest) a = rank rest a + 1 := by
      intro a ha
      obtain ⟨k, hk, hak⟩ := List.mem_flatMap.1 ha
      have hkind : a.kind = k := by simpa using (List.mem_filter.1 hak).2
      exact rank_cons_of_ne rest fun hal => hl (hal ▸ hkind ▸ hk)
    rw [arranged_cons, List.pairwise_append]
    refine ⟨List.pairwise_of_forall_mem_list fun a ha b _ => ?_, ?_, fun a ha b _ => ?_⟩
    · rw [hfirst a ha]
      exact Nat.zero_le _
    · refine (ih hrest).imp_of_mem fun ha hb hab => ?_
      rw [hlater _ ha, hlater _ hb]
      exact Nat.succ_le_succ hab
    · rw [hfirst a ha]
      exact Nat.zero_le _

theorem stablySorted_arranged (hall : ∀ k, k ∈ kinds) (hnodup : kinds.Nodup) (ds : List Document) :
    StablySorted (rank kinds) ds (arranged kinds ds) := by
  refine ⟨ascending_arranged hnodup ds, fun n => ?_⟩
  rw [filter_arranged]
  -- documents of one rank are of one kind, so only the pass over that kind finds them
  cases hrank : ds.filter fun d => rank kinds d = n with
  | nil => exact List.eq_nil_iff_forall_not_mem.2 fun d hd => by simp [mem_arranged hall] at hd
  | cons d rest =>
    have hsame : ∀ e ∈ d :: rest, rank kinds e = n := fun e he => by
      simpa using (List.mem_filter.1 (hrank ▸ he : e ∈ ds.filter fun d => rank kinds d = n)).2
    refine arranged_of_kind (hall d.kind) hnodup fun e he => kind_eq_of_rank_eq hall ?_
    rw [hsame e he, hsame d List.mem_cons_self]

/-- The choices are the documents in an order of kinds. -/
structure Rearranges (kinds : List DocumentKind) (ds choices : List Document) : Prop where
  /-- No document is lost and none is repeated. -/
  perm : choices.Perm ds
  ascending : choices.Pairwise fun a b => rank kinds a ≤ rank kinds b
  /-- Documents of one kind stay as they stood. -/
  stable : ∀ k, choices.filter (·.kind == k) = ds.filter (·.kind == k)

theorem rearranges_arranged (hall : ∀ k, k ∈ kinds) (hnodup : kinds.Nodup) (ds : List Document) :
    Rearranges kinds ds (arranged kinds ds) :=
  have hsorted := stablySorted_arranged hall hnodup ds
  ⟨hsorted.perm, hsorted.ascending, fun k => filter_kind_arranged (hall k) hnodup ds⟩

/-- The choices for a domain and for a problem are the documents, whatever these are. For a domain
they go from domains over documents of unknown kind to problems, for a problem the other way round,
so that each is the other one with its three blocks in the opposite order. -/
theorem choices_kind_by_kind (ds : List Document) :
    Rearranges [.domain, .unknown, .problem] ds (domainChoices ds) ∧
    Rearranges [.problem, .unknown, .domain] ds (problemChoices ds) ∧
    ∃ domains unknowns problems : List Document,
      (∀ d ∈ domains, d.kind = .domain) ∧ (∀ d ∈ unknowns, d.kind = .unknown) ∧
      (∀ d ∈ problems, d.kind = .problem) ∧
      domainChoices ds = domains ++ unknowns ++ problems ∧
      problemChoices ds = problems ++ unknowns ++ domains := by
  have hkind : ∀ k, ∀ d ∈ ds.filter (·.kind == k), d.kind = k := fun k d hd => by
    simpa using (List.mem_filter.1 hd).2
  refine ⟨rearranges_arranged (fun k => by cases k <;> decide) (by decide) ds,
    rearranges_arranged (fun k => by cases k <;> decide) (by decide) ds,
    ds.filter (·.kind == .domain), ds.filter (·.kind == .unknown), ds.filter (·.kind == .problem),
    hkind _, hkind _, hkind _, ?_, ?_⟩
  · simp [domainChoices, arranged]
  · simp [problemChoices, arranged]

/-- Documents with the same id are different documents, and both are among the choices. -/
example : problemChoices [⟨"a", "(domain)", .domain⟩, ⟨"b", "", .unknown⟩, ⟨"a", "", .unknown⟩] =
    [⟨"b", "", .unknown⟩, ⟨"a", "", .unknown⟩, ⟨"a", "(domain)", .domain⟩] := rfl

end PlanCourier.Document

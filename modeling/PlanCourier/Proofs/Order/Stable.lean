import Mathlib.Data.List.Nodup

/-!
# Stable order

A list in order of its items' keys, in which the items of one key stand as they stood before. That
the items of every key are the same ones in the same order says both that nothing is lost and that
the order is stable.

Main statements:

- `StablySorted.perm`: nothing is lost or repeated;
- `StablySorted.unique`: there is one such list;
- `StablySorted.filter`: a part of the items stands in it in the order of that part alone;
- `StablySorted.eq_of_perm`: where all keys differ, it does not matter how the items stood before;
- `stablySorted_mergeSort`: sorting by keys leads to it.
-/

namespace PlanCourier

variable {α κ : Type} [LE κ] [DecidableEq κ] {key : α → κ} {xs xs' ys ys' : List α}

/-- The items of `xs` in order of their keys; those of one key stand as they do in `xs`. -/
structure StablySorted (key : α → κ) (xs ys : List α) : Prop where
  ascending : ys.Pairwise fun a b => key a ≤ key b
  stable : ∀ k, (ys.filter fun a => key a = k) = xs.filter fun a => key a = k

namespace StablySorted

theorem mem_iff (h : StablySorted key xs ys) {a : α} : a ∈ ys ↔ a ∈ xs := by
  have hkey : (a ∈ ys.filter fun b => key b = key a) ↔ a ∈ xs.filter fun b => key b = key a := by
    rw [h.stable]
  simpa using hkey

theorem perm (h : StablySorted key xs ys) : ys.Perm xs := by
  classical
  refine List.perm_iff_count.2 fun a => ?_
  -- the copies of an item are among the items of its key
  have hcount : ∀ zs : List α, (zs.filter fun b => key b = key a).count a = zs.count a :=
    fun zs => List.count_filter (by simp)
  rw [← hcount ys, ← hcount xs, h.stable]

theorem filter (h : StablySorted key xs ys) (p : α → Bool) :
    StablySorted key (xs.filter p) (ys.filter p) := by
  refine ⟨h.ascending.filter p, fun k => ?_⟩
  rw [List.filter_comm, h.stable, List.filter_comm]

section
variable [Std.IsLinearOrder κ]

/-- The first items of two such lists have the same key, for each of them stands in both. -/
theorem key_le_of_cons {a b : α} {as bs : List α} (h : StablySorted key xs (a :: as))
    (h' : StablySorted key xs (b :: bs)) : key a ≤ key b := by
  have hmem : b ∈ a :: as := h.mem_iff.2 (h'.mem_iff.1 List.mem_cons_self)
  obtain rfl | hmem := List.mem_cons.1 hmem
  · exact Std.le_refl (key b)
  · exact (List.pairwise_cons.1 h.ascending).1 b hmem

theorem unique (h : StablySorted key xs ys) (h' : StablySorted key xs ys') : ys = ys' := by
  induction ys generalizing xs ys' with
  | nil =>
    have hxs : xs = [] := h.perm.symm.eq_nil
    rw [hxs] at h'
    exact h'.perm.eq_nil.symm
  | cons a as ih =>
    cases ys' with
    | nil =>
      have hxs : xs = [] := h'.perm.symm.eq_nil
      rw [hxs] at h
      exact h.perm.eq_nil
    | cons b bs =>
      have hkey : key a = key b := Std.le_antisymm (h.key_le_of_cons h') (h'.key_le_of_cons h)
      have hfirst := (h.stable (key b)).trans (h'.stable (key b)).symm
      simp only [List.filter_cons, hkey, decide_true, if_true, List.cons.injEq] at hfirst
      obtain ⟨rfl, -⟩ := hfirst
      have hrest : ∀ k, (as.filter fun x => key x = k) = bs.filter fun x => key x = k := by
        intro k
        have hall := (h.stable k).trans (h'.stable k).symm
        by_cases hk : key a = k
        · simpa [List.filter_cons, hk] using hall
        · simpa [List.filter_cons, hk] using hall
      have has : StablySorted key as as := ⟨(List.pairwise_cons.1 h.ascending).2, fun _ => rfl⟩
      have hbs : StablySorted key as bs :=
        ⟨(List.pairwise_cons.1 h'.ascending).2, fun k => (hrest k).symm⟩
      rw [ih has hbs]

/-- Where all keys differ there is one order, however the items stood before. -/
theorem eq_of_perm (h : StablySorted key xs ys) (h' : StablySorted key xs' ys')
    (hperm : xs.Perm xs') (hkeys : (xs.map key).Nodup) : ys = ys' := by
  have hinj : ∀ a ∈ xs, ∀ b ∈ xs, key a = key b → a = b :=
    fun a ha b hb => List.inj_on_of_nodup_map hkeys ha hb
  have hitems : ys.Perm ys' := h.perm.trans (hperm.trans h'.perm.symm)
  refine hitems.eq_of_pairwise (fun a b ha hb hab hba => ?_) h.ascending h'.ascending
  have hb' : b ∈ xs := hperm.mem_iff.2 (h'.mem_iff.1 hb)
  exact hinj a (h.mem_iff.1 ha) b hb' (Std.le_antisymm hab hba)

end

end StablySorted

/-- Sorting by keys. An item moves before another one only where their keys say so. -/
theorem stablySorted_mergeSort [Std.IsLinearOrder κ] [DecidableLE κ] (key : α → κ) (xs : List α) :
    StablySorted key xs (xs.mergeSort fun a b => key a ≤ key b) := by
  have htrans : ∀ a b c, decide (key a ≤ key b) = true → decide (key b ≤ key c) = true →
      decide (key a ≤ key c) = true := by
    simpa using fun a b c => Std.le_trans
  have htotal : ∀ a b, (decide (key a ≤ key b) || decide (key b ≤ key a)) = true := by
    simpa using fun a b => Std.le_total
  refine ⟨by simpa using List.pairwise_mergeSort htrans htotal xs, fun k => ?_⟩
  -- the items of one key are in order already, and stay as they are
  have hsame : (xs.filter fun a => key a = k).Pairwise fun a b => decide (key a ≤ key b) = true := by
    refine List.pairwise_of_forall_mem_list fun a ha b hb => ?_
    have hak : key a = k := by simpa using (List.mem_filter.1 ha).2
    have hbk : key b = k := by simpa using (List.mem_filter.1 hb).2
    rw [hak, hbk]
    exact decide_eq_true (Std.le_refl k)
  have hkept := (List.sublist_mergeSort htrans htotal hsame List.filter_sublist).filter
    fun a => key a = k
  rw [List.filter_filter] at hkept
  simp only [Bool.and_self] at hkept
  have hlength := ((List.mergeSort_perm xs fun a b => key a ≤ key b).filter
    fun a => key a = k).length_eq
  exact (hkept.eq_of_length hlength.symm).symm

end PlanCourier

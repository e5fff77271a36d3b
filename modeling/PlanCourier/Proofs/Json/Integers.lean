import Mathlib.Data.List.DropRight
import PlanCourier.Proofs.Json.ReadBack

/-!
# Integers in JSON texts

An integer that fits 64 bits is read back from its decimal text, if nothing follows that would be
read as more of it, and so is a list of such integers, whatever blanks stand between its parts. The
integers next to the ends of the range are read like all others: no rounding takes place.

Main statements:

- `readNumber_integer`: a written integer is read back;
- `readItems_of_isItems`: so are the items of a list;
- `read?_of_isListOf`: so is a whole text that is a list of integers;
- `isListOf_compact`: the compact text of such a list is one of its texts.
-/

namespace PlanCourier.Json

open PlanCourier.Text

variable {i : Int} {is : List Int} {cs rest before after : List Char}

/-! ## One integer -/

/-- The integer fits 64 bits, signed or unsigned. -/
def Fits (i : Int) : Prop := -0x8000000000000000 ≤ i ∧ i ≤ 0xFFFFFFFFFFFFFFFF

/-- What follows does not go on with a number. -/
def EndsNumber (rest : List Char) : Prop :=
  ∀ c, rest.head? = some c → c.isDigit = false ∧ c ≠ '.' ∧ c ≠ 'e' ∧ c ≠ 'E'

theorem digitsValue_natural (n : Nat) : digitsValue (natural n) = n := by
  have hvalue : digitsValue = fun cs => Nat.ofDigitChars 10 cs 0 := by
    funext cs
    unfold digitsValue Nat.ofDigitChars
    congr 1
    funext n c
    rw [Nat.mul_comm]
    rfl
  simp [hvalue, natural]

theorem readDigits_append {ds : List Char} (hds : IsDigits ds)
    (h : ∀ c, rest.head? = some c → c.isDigit = false) :
    readDigits (ds ++ rest) = some (ds, rest) := by
  have hstop : rest.takeWhile Char.isDigit = [] ∧ rest.dropWhile Char.isDigit = rest := by
    cases rest with
    | nil => exact ⟨rfl, rfl⟩
    | cons c rest => simp [h c rfl]
  unfold readDigits
  rw [List.takeWhile_append_of_pos hds.digits, List.dropWhile_append_of_pos hds.digits, hstop.1,
    hstop.2, List.append_nil]
  cases hcs : ds with
  | nil => exact absurd hcs hds.ne_nil
  | cons d ds => rfl

theorem exists_natural_eq_cons (n : Nat) : ∃ d ds, natural n = d :: ds ∧ d.isDigit = true := by
  cases hcs : natural n with
  | nil => exact absurd hcs (natural_ne_nil n)
  | cons d ds => exact ⟨d, ds, rfl, natural_digits (hcs ▸ List.mem_cons_self)⟩

theorem readWhole_append {ds : List Char} (hds : IsWhole ds)
    (h : ∀ c, rest.head? = some c → c.isDigit = false) :
    readWhole (ds ++ rest) = some (ds, rest) := by
  cases hds with
  | zero => rfl
  | digits hdigits hhead =>
    have hread := readDigits_append hdigits h
    cases ds with
    | nil => exact absurd rfl hdigits.ne_nil
    | cons d ds =>
      rw [List.cons_append] at hread ⊢
      rw [readWhole]
      · exact hread
      · rintro rest' ⟨⟩
        exact hhead rfl

theorem readFraction_of_endsNumber (h : EndsNumber rest) :
    readFraction rest = some (none, rest) := by
  cases rest with
  | nil => rfl
  | cons c rest =>
    rw [readFraction]
    rintro rest' ⟨⟩
    exact (h '.' rfl).2.1 rfl

theorem readExponent_of_endsNumber (h : EndsNumber rest) :
    readExponent rest = some (none, rest) := by
  cases rest with
  | nil => rfl
  | cons c rest => exact if_neg (not_or.2 (h c rfl).2.2)

/-- A written integer is read back, whatever follows that does not go on with it. -/
theorem readNumber_integer (hi : Fits i) (h : EndsNumber rest) :
    readNumber (integer i ++ rest) = some (.whole i, rest) := by
  have hwhole (n : Nat) := readWhole_append (isWhole_natural n) fun c hc => (h c hc).1
  have hfraction := readFraction_of_endsNumber h
  have hexponent := readExponent_of_endsNumber h
  obtain ⟨hleast, hgreatest⟩ := hi
  cases i with
  | ofNat n =>
    have hfits : n ≤ 0xFFFFFFFFFFFFFFFF := Int.ofNat_le.1 hgreatest
    have hnumber : numberOf false (natural n) none none = some (.whole n) := by
      simp [numberOf, digitsValue_natural, hfits]
    unfold readNumber
    split
    next negative cs hsign =>
      split at hsign
      next rest' hminus =>
        -- a digit stands where the sign would stand
        obtain ⟨d, ds, hcs, hdigit⟩ := exists_natural_eq_cons n
        rw [integer, hcs] at hminus
        obtain rfl : d = '-' := (List.cons.inj hminus).1
        cases hdigit
      next =>
        obtain ⟨rfl, rfl⟩ := Prod.mk.inj hsign
        simp [integer, hwhole, hfraction, hexponent, hnumber]
  | negSucc n =>
    have hfits : n + 1 ≤ 0x8000000000000000 := by omega
    have hnumber : numberOf true (natural (n + 1)) none none = some (.whole (Int.negSucc n)) := by
      simp [numberOf, digitsValue_natural, hfits, Int.negSucc_eq]
    unfold readNumber
    simp [integer, hwhole, hfraction, hexponent, hnumber]

theorem exists_integer_eq_cons (i : Int) :
    ∃ c cs, integer i = c :: cs ∧ (c = '-' ∨ c.isDigit = true) := by
  cases i with
  | ofNat n =>
    obtain ⟨d, ds, hcs, hdigit⟩ := exists_natural_eq_cons n
    exact ⟨d, ds, hcs, .inr hdigit⟩
  | negSucc n => exact ⟨'-', _, rfl, .inl rfl⟩

theorem isGap_eq_false {c : Char} (h : c = '-' ∨ c.isDigit = true) : isGap c = false := by
  unfold isGap
  rcases h with rfl | h
  · rfl
  · refine Bool.eq_false_iff.2 fun hgap => ?_
    simp only [Bool.or_eq_true, beq_iff_eq] at hgap
    rcases hgap with ((rfl | rfl) | rfl) | rfl <;> cases h

theorem skipGap_append (h : IsBlanks before) (cs : List Char) :
    skipGap (before ++ cs) = skipGap cs :=
  List.dropWhile_append_of_pos h

theorem readValue_append (h : IsBlanks before) (fuel : Nat) (cs : List Char) :
    readValue fuel (before ++ cs) = readValue fuel cs := by
  cases fuel with
  | zero => rfl
  | succ fuel => rw [readValue, readValue, skipGap_append h]

theorem readValue_of_head {c : Char} (hc : c = '-' ∨ c.isDigit = true) (fuel : Nat)
    (cs : List Char) :
    readValue (fuel + 1) (c :: cs) =
      (readNumber (c :: cs)).map fun (n, rest) => (.number n, rest) := by
  have hother {d : Char} {ds : List Char} (heq : c :: cs = d :: ds)
      (hd : ¬ (d = '-' ∨ d.isDigit = true)) : False := hd ((List.cons.inj heq).1 ▸ hc)
  rw [readValue, skipGap_cons (isGap_eq_false hc)]
  split
  case h_7 => rfl
  all_goals
    next heq => exact (hother heq (by decide)).elim

theorem readValue_integer (hbefore : IsBlanks before) (hi : Fits i) (h : EndsNumber rest)
    (fuel : Nat) :
    readValue (fuel + 1) (before ++ (integer i ++ rest)) = some (ofInt i, rest) := by
  have hread := readNumber_integer hi h
  obtain ⟨c, cs, hcs, hc⟩ := exists_integer_eq_cons i
  rw [hcs, List.cons_append] at hread ⊢
  rw [readValue_append hbefore, readValue_of_head hc, hread]
  rfl

/-! ## Lists of integers -/

/-- The items of a list of integers up to its closing bracket, with blanks around each of them. -/
inductive IsItems : List Int → List Char → Prop
  | last {before after : List Char} {i : Int} : IsBlanks before → IsBlanks after →
      IsItems [i] (before ++ (integer i ++ (after ++ [']'])))
  | more {before after cs : List Char} {i : Int} {is : List Int} : IsBlanks before →
      IsBlanks after → IsItems is cs →
      IsItems (i :: is) (before ++ (integer i ++ (after ++ ',' :: cs)))

/-- A JSON text of a list of integers, with blanks between its parts. -/
inductive IsListOf : List Int → List Char → Prop
  | empty {before within after : List Char} : IsBlanks before → IsBlanks within →
      IsBlanks after → IsListOf [] (before ++ '[' :: (within ++ ']' :: after))
  | items {before after cs : List Char} {is : List Int} : IsBlanks before → IsItems is cs →
      IsBlanks after → IsListOf is (before ++ '[' :: (cs ++ after))

/-- What may stand between the parts of a list or an object does not go on with a number. -/
theorem endsNumber_mark {mark : Char} (h : mark ∈ [',', ']', '\x7d']) (cs : List Char) :
    EndsNumber (mark :: cs) := by
  intro c hc
  obtain rfl := Option.some.inj hc
  simp only [List.mem_cons, List.not_mem_nil, or_false] at h
  rcases h with rfl | rfl | rfl <;> decide

theorem EndsNumber.blanks (hafter : IsBlanks after) (h : EndsNumber rest) :
    EndsNumber (after ++ rest) := by
  intro c hc
  cases after with
  | nil => exact h c hc
  | cons d after =>
    obtain rfl := Option.some.inj hc
    have hgap := hafter d List.mem_cons_self
    simp only [isGap, Bool.or_eq_true, beq_iff_eq] at hgap
    rcases hgap with ((rfl | rfl) | rfl) | rfl <;> decide

theorem readItems_of_isItems (h : IsItems is cs) (hfits : ∀ i ∈ is, Fits i) {fuel : Nat}
    (hfuel : cs.length ≤ fuel) (rest : List Char) :
    readItems fuel (cs ++ rest) = some (is.map ofInt, rest) := by
  induction h generalizing fuel with
  | @last before after i hbefore hafter =>
    obtain ⟨c, cs, hcs, -⟩ := exists_integer_eq_cons i
    simp only [List.length_append, List.length_cons, hcs] at hfuel
    obtain ⟨fuel, rfl⟩ : ∃ n, fuel = n + 2 := ⟨fuel - 2, by omega⟩
    have hends := (endsNumber_mark (.tail _ (.head _)) rest).blanks hafter
    have hread := readValue_integer hbefore (hfits i List.mem_cons_self) hends fuel
    simp [readItems, hread, skipGap_append hafter, skipGap_cons (rfl : isGap ']' = false)]
  | @more before after cs i is hbefore hafter _ ih =>
    obtain ⟨d, ds, hds, -⟩ := exists_integer_eq_cons i
    simp only [List.length_append, List.length_cons, hds] at hfuel
    obtain ⟨fuel, rfl⟩ : ∃ n, fuel = n + 2 := ⟨fuel - 2, by omega⟩
    obtain ⟨hi, his⟩ := List.forall_mem_cons.1 hfits
    have hends := (endsNumber_mark (.head _) (cs ++ rest)).blanks hafter
    have hread := readValue_integer hbefore hi hends fuel
    have hmore := @ih his (fuel + 1) (by omega)
    rw [readItems]
    simp only [List.append_assoc, List.cons_append, hread, skipGap_append hafter,
      skipGap_cons (rfl : isGap ',' = false), hmore]
    rfl

theorem skipGap_skipGap (cs : List Char) : skipGap (skipGap cs) = skipGap cs :=
  List.dropWhile_idempotent isGap cs

theorem readItems_skipGap (fuel : Nat) (cs : List Char) :
    readItems fuel (skipGap cs) = readItems fuel cs := by
  cases fuel with
  | zero => rfl
  | succ fuel =>
    have hvalue : readValue fuel (skipGap cs) = readValue fuel cs := by
      cases fuel with
      | zero => rfl
      | succ fuel => rw [readValue, readValue, skipGap_skipGap]
    rw [readItems, readItems, hvalue]

theorem readValue_bracket (fuel : Nat) (cs : List Char) :
    readValue (fuel + 1) ('[' :: cs) =
      match skipGap cs with
      | ']' :: rest => some (.list [], rest)
      | rest => (readItems fuel rest).map fun (items, rest) => (.list items, rest) := rfl

theorem IsItems.exists_skipGap (h : IsItems is cs) (rest : List Char) :
    ∃ c ds, skipGap (cs ++ rest) = c :: ds ∧ (c = '-' ∨ c.isDigit = true) := by
  obtain ⟨before, i, more, hbefore, rfl⟩ :
      ∃ before i more, IsBlanks before ∧ cs = before ++ (integer i ++ more) := by
    cases h with
    | last hbefore _ => exact ⟨_, _, _, hbefore, rfl⟩
    | more hbefore _ _ => exact ⟨_, _, _, hbefore, rfl⟩
  obtain ⟨c, ds, hds, hc⟩ := exists_integer_eq_cons i
  rw [List.append_assoc, skipGap_append hbefore, hds, List.append_assoc, List.cons_append,
    skipGap_cons (isGap_eq_false hc)]
  exact ⟨c, _, rfl, hc⟩

/-- A list of integers is read from each of its texts, up to the blanks at the end. -/
theorem readStart_of_isListOf (h : IsListOf is cs) (hfits : ∀ i ∈ is, Fits i) :
    ∃ after, IsBlanks after ∧ readStart cs = some (.list (is.map ofInt), after) := by
  cases h with
  | @empty before within after hbefore hwithin hafter =>
    refine ⟨after, hafter, ?_⟩
    rw [readStart, readValue_append hbefore, readValue_bracket, skipGap_append hwithin,
      skipGap_cons rfl]
    rfl
  | @items before after cs is hbefore hitems hafter =>
    refine ⟨after, hafter, ?_⟩
    have hread := @readItems_of_isItems is cs hitems hfits
      (2 * (before ++ '[' :: (cs ++ after)).length + 1)
      (by simp only [List.length_append, List.length_cons]; omega) after
    rw [← readItems_skipGap] at hread
    obtain ⟨c, ds, hds, hc⟩ := hitems.exists_skipGap after
    rw [hds] at hread
    rw [readStart, readValue_append hbefore, readValue_bracket, hds]
    split
    next hend =>
      obtain rfl : c = ']' := (List.cons.inj hend).1
      exact absurd hc (by decide)
    next =>
      rw [hread]
      rfl

theorem depthItems_map_ofInt (is : List Int) : depthItems (is.map ofInt) = 0 := by
  induction is with
  | nil => rfl
  | cons i is ih => rw [List.map_cons, depthItems, ih]; rfl

theorem read?_of_isListOf {s : String} (h : IsListOf is s.toList) (hfits : ∀ i ∈ is, Fits i) :
    read? s = some (.list (is.map ofInt)) := by
  obtain ⟨after, hafter, hread⟩ := readStart_of_isListOf h hfits
  have hend : skipGap after = [] := List.dropWhile_eq_nil_iff.2 hafter
  have hdepth : (list (is.map ofInt)).depth ≤ depthLimit := by
    rw [depth, depthItems_map_ofInt]
    decide
  simp [read?, hread, hend, hdepth]

theorem isItems_compact (i : Int) (is : List Int) :
    IsItems (i :: is) (compact (ofInt i) ++ compactItems (is.map ofInt)) := by
  induction is generalizing i with
  | nil => exact .last isBlanks_nil isBlanks_nil
  | cons j is ih => exact .more isBlanks_nil isBlanks_nil (ih j)

theorem isListOf_compact (is : List Int) : IsListOf is (compact (.list (is.map ofInt))) := by
  cases is with
  | nil => exact .empty isBlanks_nil isBlanks_nil isBlanks_nil
  | cons i is =>
    have htext := IsListOf.items isBlanks_nil (isItems_compact i is) isBlanks_nil
    rw [List.append_nil] at htext
    exact htext

end PlanCourier.Json

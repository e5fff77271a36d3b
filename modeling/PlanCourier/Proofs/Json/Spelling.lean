import PlanCourier.Json.Skip
import PlanCourier.Proofs.Json.Integers

/-!
# What the texts of strings and objects stand for

Between its quotes a string stands for the characters that are spelled there: each of them as
itself, by a short escape, by its code, or by a surrogate pair of two codes. The reader finds what
is spelled and nothing else. An object stands for its members in their order, each with the text
that its name stands for.

Main statements:

- `readString_eq_some_iff`: what is read is what is spelled up to the closing quote;
- `quotes_printString`: a string is written so that it stands for itself.
-/

namespace PlanCourier.Json

variable {cs s rest : List Char} {t : String}

/-- The characters between the quotes of a string, and the text they stand for. -/
inductive Spells : List Char → List Char → Prop
  | nothing : Spells [] []
  | plain {c : Char} {cs s : List Char} : 0x20 ≤ c.toNat → c ≠ '"' → c ≠ '\\' →
      Spells cs s → Spells (c :: cs) (c :: s)
  | short {c e : Char} {cs s : List Char} : shortEscape? c = some e →
      Spells cs s → Spells ('\\' :: c :: cs) (e :: s)
  | code {a b c d : Char} {w : Nat} {cs s : List Char} : hexWord? a b c d = some w →
      ¬ (0xD800 ≤ w ∧ w ≤ 0xDFFF) →
      Spells cs s → Spells ('\\' :: 'u' :: a :: b :: c :: d :: cs) (Char.ofNat w :: s)
  | pair {a b c d e f g h : Char} {w l : Nat} {cs s : List Char} : hexWord? a b c d = some w →
      0xD800 ≤ w ∧ w ≤ 0xDBFF → hexWord? e f g h = some l → 0xDC00 ≤ l ∧ l ≤ 0xDFFF →
      Spells cs s →
      Spells ('\\' :: 'u' :: a :: b :: c :: d :: '\\' :: 'u' :: e :: f :: g :: h :: cs)
        (Char.ofNat (0x10000 + (w - 0xD800) * 0x400 + (l - 0xDC00)) :: s)

theorem shortEscape?_ne {c e : Char} (h : shortEscape? c = some e) : c ≠ 'u' := by
  rintro rfl
  cases h

theorem readString_of_spells (h : Spells cs s) (rest : List Char) :
    readString (cs ++ '"' :: rest) = some (s, rest) := by
  induction h with
  | nothing => rfl
  | plain hshown hquote hbackslash _ ih =>
    rw [List.cons_append, readString]
    · rw [if_neg (not_or.2 ⟨Nat.not_lt.2 hshown, hbackslash⟩), ih]
      rfl
    · exact hquote
    · exact fun _ _ _ _ _ h _ => hbackslash h
    · exact fun _ _ h _ => hbackslash h
  | short hescape _ ih =>
    have hcode := shortEscape?_ne hescape
    rw [List.cons_append, List.cons_append, readString]
    · simp only [hescape, ih]
      rfl
    · exact fun _ _ _ _ _ h _ => hcode h
  | @code _ _ _ _ w _ _ hword hwhole _ ih =>
    have hhigh : ¬ (0xD800 ≤ w ∧ w ≤ 0xDBFF) := by omega
    have hlow : ¬ (0xDC00 ≤ w ∧ w ≤ 0xDFFF) := by omega
    simp only [List.cons_append, readString, hword, if_neg hhigh, if_neg hlow, ih]
    rfl
  | pair hhigh hfirst hlow hsecond _ ih =>
    simp only [List.cons_append, readString, hhigh, if_pos hfirst, hlow, if_pos hsecond, ih]
    rfl

theorem exists_of_map_cons {c : Char} {read : Option (List Char × List Char)}
    (h : (read.map fun (s, rest) => (c :: s, rest)) = some (s, rest)) :
    ∃ t, s = c :: t ∧ read = some (t, rest) := by
  obtain ⟨⟨t, rest'⟩, hread, heq⟩ := Option.map_eq_some_iff.1 h
  obtain ⟨rfl, rfl⟩ := Prod.mk.inj heq
  exact ⟨t, rfl, hread⟩

theorem spells_of_readString (h : readString cs = some (s, rest)) :
    ∃ body, cs = body ++ '"' :: rest ∧ Spells body s := by
  fun_induction readString cs generalizing s with
  | case2 =>
    obtain ⟨rfl, rfl⟩ := Prod.mk.inj (Option.some.inj h)
    exact ⟨[], rfl, .nothing⟩
  | case5 a b c d w hhigh hfirst e f g i rest' l hlow hsecond ih =>
    obtain ⟨t, rfl, hread⟩ := exists_of_map_cons h
    obtain ⟨body, rfl, hbody⟩ := ih hread
    exact ⟨_, rfl, .pair hhigh hfirst hlow hsecond hbody⟩
  | case9 a b c d rest' w hword hhigh hlow ih =>
    obtain ⟨t, rfl, hread⟩ := exists_of_map_cons h
    obtain ⟨body, rfl, hbody⟩ := ih hread
    exact ⟨_, rfl, .code hword (by omega) hbody⟩
  | case11 c rest' _ e hescape ih =>
    obtain ⟨t, rfl, hread⟩ := exists_of_map_cons h
    obtain ⟨body, rfl, hbody⟩ := ih hread
    exact ⟨_, rfl, .short hescape hbody⟩
  | case13 c rest' hquote _ _ hplain ih =>
    obtain ⟨hshown, hbackslash⟩ := not_or.1 hplain
    obtain ⟨t, rfl, hread⟩ := exists_of_map_cons h
    obtain ⟨body, rfl, hbody⟩ := ih hread
    exact ⟨_, rfl, .plain (Nat.not_lt.1 hshown) hquote hbackslash hbody⟩
  -- in the other cases nothing is read
  | _ => cases h

/-- What is read of a string after its opening quote is what is spelled up to the closing one. -/
theorem readString_eq_some_iff :
    readString cs = some (s, rest) ↔ ∃ body, cs = body ++ '"' :: rest ∧ Spells body s := by
  constructor
  · exact spells_of_readString
  · rintro ⟨body, rfl, hbody⟩
    exact readString_of_spells hbody rest

/-- The text of a string, with its quotes, and what it stands for. -/
def Quotes (cs : List Char) (s : String) : Prop :=
  ∃ body, cs = '"' :: (body ++ ['"']) ∧ Spells body s.toList

theorem quotes_printString (s : String) : Quotes (printString s) s := by
  obtain ⟨body, heq, hbody⟩ :=
    spells_of_readString (readString_flatMap_escape s.toList [])
  exact ⟨body, by rw [printString, heq], hbody⟩

theorem quotes_iff {body : List Char} : Quotes ('"' :: (body ++ ['"'])) t ↔
    ∀ rest, readString (body ++ '"' :: rest) = some (t.toList, rest) := by
  constructor
  · rintro ⟨body', heq, hbody⟩
    obtain rfl := List.append_cancel_right (List.cons.inj heq).2
    exact readString_of_spells hbody
  · intro hread
    obtain ⟨body', heq, hbody⟩ := spells_of_readString (hread [])
    obtain rfl := List.append_cancel_right heq
    exact ⟨body, rfl, hbody⟩

theorem Quotes.unique {u : String} (ht : Quotes cs t) (hu : Quotes cs u) : t = u := by
  obtain ⟨body, rfl, -⟩ := id ht
  have hread := (quotes_iff.1 ht []).symm.trans (quotes_iff.1 hu [])
  exact String.toList_inj.1 (Prod.mk.inj (Option.some.inj hread)).1

/-! ## Members of objects -/

/-- The text of a member: its name, and the text of its value. -/
inductive IsMember : String × List Char → List Char → Prop
  | parts {before quoted between gap value after : List Char} {name : String} : IsBlanks before →
      Quotes quoted name → IsBlanks between → IsBlanks gap → Derives .value value →
      IsBlanks after →
      IsMember (name, value) (before ++ (quoted ++ (between ++ ':' :: (gap ++ (value ++ after)))))

/-- The text of members in their order. -/
inductive AreMembers : List (String × List Char) → List Char → Prop
  | last {m : String × List Char} {cs : List Char} : IsMember m cs → AreMembers [m] cs
  | more {m : String × List Char} {ms : List (String × List Char)} {cs rest : List Char} :
      IsMember m cs → AreMembers ms rest → AreMembers (m :: ms) (cs ++ ',' :: rest)

theorem IsMember.length_pos {m : String × List Char} (h : IsMember m cs) : 0 < cs.length := by
  cases h
  simp only [List.length_append, List.length_cons]
  omega

theorem AreMembers.length_le {ms : List (String × List Char)} (h : AreMembers ms cs) :
    ms.length ≤ cs.length := by
  induction h with
  | last hm => exact hm.length_pos
  | more _ _ ih =>
    simp only [List.length_append, List.length_cons]
    omega

/-- Without the blanks before it a member starts with the quote of its name. -/
theorem IsMember.exists_skipGap {m : String × List Char} (h : IsMember m cs) :
    ∃ shown, IsMember m ('"' :: shown) ∧ ∀ rest, skipGap (cs ++ rest) = '"' :: (shown ++ rest) := by
  cases h with
  | @parts before quoted between gap value after name hbefore hname hbetween hgap hvalue hafter =>
    have hparts := IsMember.parts isBlanks_nil hname hbetween hgap hvalue hafter
    obtain ⟨spelled, rfl, -⟩ := hname
    refine ⟨spelled ++ '"' :: (between ++ ':' :: (gap ++ (value ++ after))),
      by simpa using hparts, fun rest => ?_⟩
    rw [List.append_assoc, skipGap_append hbefore, List.cons_append, List.cons_append,
      skipGap_cons rfl]
    simp

theorem AreMembers.exists_skipGap {ms : List (String × List Char)} (h : AreMembers ms cs) :
    ∃ shown, AreMembers ms ('"' :: shown) ∧
      ∀ rest, skipGap (cs ++ rest) = '"' :: (shown ++ rest) := by
  cases h with
  | last hm =>
    obtain ⟨shown, hshown, hskip⟩ := hm.exists_skipGap
    exact ⟨shown, .last hshown, hskip⟩
  | more hm hmore =>
    obtain ⟨shown, hshown, hskip⟩ := hm.exists_skipGap
    refine ⟨shown ++ ',' :: _, .more hshown hmore, fun rest => ?_⟩
    rw [List.append_assoc, hskip, List.append_assoc]

/-- The whole text is an object with these members. -/
inductive IsObjectOf : List (String × List Char) → List Char → Prop
  | empty {before within after : List Char} : IsBlanks before → IsBlanks within → IsBlanks after →
      IsObjectOf [] (before ++ '\x7b' :: (within ++ '\x7d' :: after))
  | members {ms : List (String × List Char)} {before cs after : List Char} : IsBlanks before →
      AreMembers ms cs → IsBlanks after →
      IsObjectOf ms (before ++ '\x7b' :: (cs ++ '\x7d' :: after))

theorem isMember_compact (name : String) (v : Json) :
    IsMember (name, compact v) (printString name ++ ':' :: compact v) := by
  have hparts := IsMember.parts isBlanks_nil (quotes_printString name) isBlanks_nil isBlanks_nil
    (derives_compact v) isBlanks_nil
  simpa using hparts

theorem areMembers_compact (name : String) (v : Json) (ms : List (String × Json)) :
    ∃ cs, printString name ++ ':' :: (compact v ++ compactMembers ms) = cs ++ ['\x7d'] ∧
      AreMembers (((name, v) :: ms).map fun m => (m.1, compact m.2)) cs := by
  induction ms generalizing name v with
  | nil => exact ⟨_, by simp [compactMembers], .last (isMember_compact name v)⟩
  | cons m ms ih =>
    obtain ⟨cs, hcs, hmore⟩ := ih m.1 m.2
    refine ⟨_, ?_, .more (isMember_compact name v) hmore⟩
    rw [compactMembers, hcs]
    simp

theorem isObjectOf_compact (ms : List (String × Json)) :
    IsObjectOf (ms.map fun m => (m.1, compact m.2)) (compact (.object ms)) := by
  cases ms with
  | nil => exact .empty isBlanks_nil isBlanks_nil isBlanks_nil
  | cons m ms =>
    obtain ⟨cs, hcs, hmembers⟩ := areMembers_compact m.1 m.2 ms
    rw [compact, hcs]
    exact .members isBlanks_nil hmembers isBlanks_nil

end PlanCourier.Json

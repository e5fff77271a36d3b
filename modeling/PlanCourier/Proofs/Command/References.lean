import PlanCourier.Command.Reference
import PlanCourier.Proofs.Text.Lines

/-!
# References that are read back

What is named on the command line in one word is what is read there. The id of a domain may be any
signed word of 64 bits, and the problem behind the first slash may hold more slashes. A parameter's
name may have white space around it, and all behind the first equals sign is its value, more signs
and white space included; a word is refused only if it has no sign or no name before the first one.

Main statements:

- `readInteger_integer`: an integer that a range holds is read back from its decimal text;
- `Assignment.read_written` and `Assignment.read_eq_error_iff`: what a word names, and why it is
  refused;
- `references_read_back`: both kinds of references name what they were written for.
-/

namespace PlanCourier

namespace Text

/-! ## Integers in decimal -/

variable {s : Span} {n : Nat} {i : Int}

theorem digit?_digitChar {d : Nat} (h : d < 10) : digit? (Nat.digitChar d) = some d := by
  revert d
  decide

theorem readUp_natural (h : n ≤ s.greatest) (rest : List Char) :
    readUp s 0 (natural n ++ rest) = readUp s n rest := by
  -- the last digit is read after the number without it, which is no greater
  induction n using Nat.strongRecOn generalizing rest with
  | ind n ih =>
    unfold natural at ih ⊢
    by_cases hn : n < 10
    · rw [Nat.toDigits_of_lt_base hn, List.singleton_append, readUp, digit?_digitChar hn]
      simp [h]
    · have hten : 10 ≤ n := by omega
      have hlast : n % 10 < 10 := Nat.mod_lt n (by decide)
      have hvalue : ((n / 10 : Nat) : Int) * 10 + ((n % 10 : Nat) : Int) = n := by omega
      rw [Nat.toDigits_of_base_le (by decide) hten, List.append_assoc,
        ih (n / 10) (by omega) (by omega), List.singleton_append, readUp, digit?_digitChar hlast]
      simp only [hvalue, if_pos h]

/-- The range on the other side of zero. -/
def Span.mirrored (s : Span) : Span := ⟨-s.greatest, -s.least⟩

theorem readDown_of_readUp {acc : Int} {cs : List Char} (h : readUp s.mirrored acc cs = .ok i) :
    readDown s (-acc) cs = .ok (-i) := by
  induction cs generalizing acc with
  | nil =>
    obtain rfl := Except.ok.inj h
    rfl
  | cons c cs ih =>
    rw [readUp] at h
    rw [readDown]
    cases hdigit : digit? c with
    | none =>
      rw [hdigit] at h
      cases h
    | some d =>
      rw [hdigit] at h
      dsimp only at h ⊢
      split at h
      next hd =>
        have hnext : -acc * 10 - d = -(acc * 10 + d) := by omega
        have hgreatest : s.mirrored.greatest = -s.least := rfl
        rw [hnext, if_pos (by omega)]
        exact ih h
      next => cases h

theorem readInteger_integer (h : s.holds i = true) : readInteger s (integer i) = .ok i := by
  obtain ⟨hleast, hgreatest⟩ : s.least ≤ i ∧ i ≤ s.greatest := by simpa [Span.holds] using h
  cases i with
  | ofNat n =>
    have hread := readUp_natural hgreatest []
    rw [List.append_nil] at hread
    have hne := natural_ne_nil n
    have hdigit : ∀ c ∈ natural n, c.isDigit = true := fun c => natural_digits
    rw [integer]
    generalize natural n = cs at hread hne hdigit
    unfold readInteger
    -- a digit is no sign
    split
    next => exact absurd rfl hne
    next => cases hdigit '+' List.mem_cons_self
    next => cases hdigit '-' List.mem_cons_self
    next => cases hdigit '+' List.mem_cons_self
    next => cases hdigit '-' List.mem_cons_self
    next => exact hread
  | negSucc n =>
    have hnegative : s.least < 0 := by omega
    have hgreatest : s.mirrored.greatest = -s.least := rfl
    have hmirrored : ((n + 1 : Nat) : Int) ≤ s.mirrored.greatest := by omega
    have hread := readUp_natural hmirrored []
    rw [List.append_nil] at hread
    have hdown : readDown s 0 (natural (n + 1)) = .ok (Int.negSucc n) := readDown_of_readUp hread
    rw [integer]
    cases hcs : natural (n + 1) with
    | nil => exact absurd hcs (natural_ne_nil (n + 1))
    | cons c cs =>
      rw [hcs] at hdown
      rw [readInteger, if_pos hnegative, hdown]
      simp

end Text

open Text

/-! ## Problems of the public collections -/

theorem slash_not_mem_integer (i : Int) : '/' ∉ integer i := by
  have hdigits (n : Nat) : '/' ∉ natural n := fun h => by cases natural_digits h
  cases i with
  | ofNat n => exact hdigits n
  | negSucc n => simpa [integer] using hdigits (n + 1)

theorem ProblemReference.read_written {id : Int} (h : Span.signed64.holds id = true)
    (problem : String) : read (integerText id ++ "/" ++ problem) = .ok ⟨id, problem⟩ := by
  have hcut : cut '/' (integerText id ++ "/" ++ problem).toList =
      some (integer id, problem.toList) :=
    cut_eq_some_iff.2 ⟨by simp [integerText], slash_not_mem_integer id⟩
  simp only [read, hcut, readInteger_integer h, String.ofList_toList]

/-! ## Parameters with values -/

namespace Assignment

variable {word name value before after : String}

/-- The name of a parameter can stand before a sign and be told from the white space around it. -/
structure IsName (name : String) : Prop where
  tight : IsTight name.toList
  noSign : '=' ∉ name.toList

theorem not_mem_of_isAllBlank (h : isAllBlank before = true) : '=' ∉ before.toList := by
  intro hsign
  have hblank := List.all_eq_true.1 h '=' hsign
  revert hblank
  decide

theorem read_written (hname : IsName name) (hbefore : isAllBlank before = true)
    (hafter : isAllBlank after = true) (value : String) :
    read (before ++ name ++ after ++ "=" ++ value) = .ok (name, value) := by
  have htrim : trim (before ++ name ++ after).toList = name.toList := by
    rw [String.toList_append, String.toList_append, List.append_assoc]
    exact trim_framed hbefore hafter hname.tight
  refine read_eq_ok.2 ⟨(before ++ name ++ after).toList, by simp, ?_, ?_, ?_⟩
  · simp [not_mem_of_isAllBlank hbefore, not_mem_of_isAllBlank hafter, hname.noSign]
  · rw [← isEmpty_trim, htrim]
    simpa using hname.tight.ne_nil
  · rw [htrim, String.ofList_toList]

theorem exists_of_read (h : read word = .ok (name, value)) : IsName name ∧
    ∃ before after : String, isAllBlank before = true ∧ isAllBlank after = true ∧
      '=' ∉ (before ++ name ++ after).toList ∧ word = before ++ name ++ after ++ "=" ++ value := by
  obtain ⟨padded, hword, hsign, hshown, rfl⟩ := read_eq_ok.1 h
  obtain ⟨before, core, after, rfl, hbefore, hafter, hcore⟩ := exists_frame hshown
  rw [trim_framed hbefore hafter hcore]
  have hnone : '=' ∉ core := fun hmem => hsign (by simp [hmem])
  refine ⟨⟨by simpa using hcore, by simpa using hnone⟩, String.ofList before, String.ofList after,
    by simpa [isAllBlank] using hbefore, by simpa [isAllBlank] using hafter, by simpa using hsign,
    ?_⟩
  apply String.toList_inj.1
  simpa using hword

/-- A word is refused because it has no sign, or because nothing shows before the first one. -/
theorem read_eq_error_iff {fault : Fault} : read word = .error fault ↔
    (fault = .noSign word ∧ '=' ∉ word.toList) ∨
    (fault = .noName word ∧ ∃ before value : String, isAllBlank before = true ∧
      word = before ++ "=" ++ value) := by
  constructor
  · intro h
    unfold read at h
    split at h
    next hcut =>
      obtain rfl := Except.error.inj h
      exact .inl ⟨rfl, cut_eq_none_iff.1 hcut⟩
    next padded value hcut =>
      obtain ⟨hword, -⟩ := cut_eq_some_iff.1 hcut
      split at h
      next hblank =>
        obtain rfl := Except.error.inj h
        refine .inr ⟨rfl, String.ofList padded, String.ofList value,
          by simpa [isAllBlank] using hblank, ?_⟩
        apply String.toList_inj.1
        simpa using hword
      next => cases h
  · rintro (⟨rfl, hsign⟩ | ⟨rfl, before, value, hbefore, rfl⟩)
    · rw [read, cut_eq_none_iff.2 hsign]
    · have hcut : cut '=' (before ++ "=" ++ value).toList = some (before.toList, value.toList) :=
        cut_eq_some_iff.2 ⟨by simp, not_mem_of_isAllBlank hbefore⟩
      rw [read, hcut]
      exact if_pos hbefore

end Assignment

/-- A reference to a problem is read as the one it was written for, whatever the id and the
problem's name. So is a parameter with its value, whatever white space stands around the name and
whatever the value holds; and a word that is read so is such a reference, with the sign after the
name as the first one of the word. A word is refused if it has no sign, or nothing but white space
before the first one, and in no other case. -/
theorem references_read_back :
    (∀ id problem, Span.signed64.holds id = true →
      ProblemReference.read (integerText id ++ "/" ++ problem) = .ok ⟨id, problem⟩) ∧
    (∀ name before after value, Assignment.IsName name → isAllBlank before = true →
      isAllBlank after = true →
      Assignment.read (before ++ name ++ after ++ "=" ++ value) = .ok (name, value)) ∧
    (∀ word name value, Assignment.read word = .ok (name, value) → Assignment.IsName name ∧
      ∃ before after : String, isAllBlank before = true ∧ isAllBlank after = true ∧
        '=' ∉ (before ++ name ++ after).toList ∧
        word = before ++ name ++ after ++ "=" ++ value) ∧
    ∀ word, (∃ fault, Assignment.read word = .error fault) ↔
      '=' ∉ word.toList ∨
        ∃ before value : String, isAllBlank before = true ∧ word = before ++ "=" ++ value := by
  refine ⟨fun id problem hid => ProblemReference.read_written hid problem,
    fun name before after value hname hbefore hafter =>
      Assignment.read_written hname hbefore hafter value,
    fun word name value => Assignment.exists_of_read, fun word => ?_⟩
  simp only [Assignment.read_eq_error_iff, exists_or, exists_eq_left]

/-- The least id with a problem whose name has slashes, a name with white space in it and around it,
values that begin with a sign or with white space, and a word without a name. -/
theorem references_at_the_ends :
    Span.signed64.holds (-9223372036854775808) = true ∧
    ProblemReference.read "-9223372036854775808/ipc/p01" =
      .ok ⟨-9223372036854775808, "ipc/p01"⟩ ∧
    Assignment.IsName "max cost" ∧ isAllBlank "\u3000" = true ∧ isAllBlank "\t " = true ∧
    Assignment.read "\u3000max cost\t = a=b " = .ok ("max cost", " a=b ") ∧
    Assignment.read "k==" = .ok ("k", "=") ∧ Assignment.IsName "k" ∧
    ∃ fault, Assignment.read "\u3000=b" = .error fault := by
  obtain ⟨hproblem, hwritten, hread, hrefused⟩ := references_read_back
  have hholds : Span.signed64.holds (-9223372036854775808) = true := by decide
  have hname : Assignment.IsName "max cost" :=
    ⟨⟨by decide, by rintro _ ⟨⟩; rfl, by rintro _ ⟨⟩; rfl⟩, by decide⟩
  have hbefore : isAllBlank "\u3000" = true := by decide
  have hafter : isAllBlank "\t " = true := by decide
  have hshort : Assignment.read "k==" = .ok ("k", "=") := rfl
  have hnameless : '=' ∉ "\u3000=b".toList ∨ ∃ before value : String,
      isAllBlank before = true ∧ "\u3000=b" = before ++ "=" ++ value :=
    .inr ⟨"\u3000", "b", hbefore, by decide⟩
  have hproblem : ProblemReference.read "-9223372036854775808/ipc/p01" =
      .ok ⟨-9223372036854775808, "ipc/p01"⟩ := by
    have hid : integerText (-9223372036854775808) = "-9223372036854775808" := by decide
    have hwhole := hproblem _ "ipc/p01" hholds
    rw [hid] at hwhole
    exact hwhole
  exact ⟨hholds, hproblem, hname, hbefore, hafter,
    hwritten "max cost" "\u3000" "\t " " a=b " hname hbefore hafter,
    hshort, (hread "k==" "k" "=" hshort).1, (hrefused _).2 hnameless⟩

end PlanCourier

import PlanCourier.Proofs.Url.Scheme

/-!
# Joining an address

An address under a base is what is left of the base without the slashes at its end, one slash, and
what follows. A path follows without the slashes at its start, a handle without one of them. So an
address depends on its base through what is left of it alone, and a handle that does not start with
two slashes is joined like a path.

Main statements:

- `isStem_iff` and `isRest_iff`: exactly one text is left of a base, and exactly one of a path;
- `solve_eq`, `join_eq` and `poll_eq`: the addresses under a base;
- `poll_eq_join_iff`: the handles that are joined like paths.
-/

namespace PlanCourier.Url

variable {base stem path rest handle : String}

/-- What is left of a base without the slashes at its end. -/
structure IsStem (base stem : String) : Prop where
  slashes : ∃ n, base.toList = stem.toList ++ List.replicate n '/'
  last : stem.toList.getLast? ≠ some '/'

/-- What is left of a path without the slashes at its start. -/
structure IsRest (path rest : String) : Prop where
  slashes : ∃ n, path.toList = List.replicate n '/' ++ rest.toList
  head : rest.toList.head? ≠ some '/'

/-- What is left of a handle without one slash at its start, if it has one there. -/
inductive Unslashed : String → String → Prop
  | slash (rest : String) : Unslashed ("/" ++ rest) rest
  | bare {handle : String} (h : handle.toList.head? ≠ some '/') : Unslashed handle handle

/-! ## What is left -/

/-- Nothing but slashes is dropped at the end of a list, and all of them are. -/
theorem rdropWhile_isSlash {cs : List Char} (h : cs.getLast? ≠ some '/') (n : Nat) :
    (cs ++ List.replicate n '/').rdropWhile isSlash = cs := by
  induction n with
  | zero =>
    rw [List.replicate_zero, List.append_nil, List.rdropWhile_eq_self_iff]
    intro hne hlast
    exact h (by simpa [List.getLast?_eq_some_getLast hne, isSlash] using hlast)
  | succ n ih =>
    rw [List.replicate_succ', ← List.append_assoc]
    exact (List.rdropWhile_concat_pos isSlash _ '/' rfl).trans ih

theorem dropWhile_isSlash {cs : List Char} (h : cs.head? ≠ some '/') (n : Nat) :
    (List.replicate n '/' ++ cs).dropWhile isSlash = cs := by
  induction n with
  | zero =>
    cases cs with
    | nil => rfl
    | cons c cs => exact List.dropWhile_cons_of_neg (by simpa [isSlash] using h)
  | succ n ih => exact ih

theorem isStem_iff : IsStem base stem ↔ trimBase base = stem := by
  constructor
  · rintro ⟨⟨n, hbase⟩, hlast⟩
    have htrim : (trimBase base).toList = base.toList.rdropWhile isSlash := String.toList_ofList
    rw [← String.toList_inj, htrim, hbase, rdropWhile_isSlash hlast]
  · rintro rfl
    obtain ⟨slashes, hbase, hslashes, hlast⟩ := exists_trimBase base
    exact ⟨⟨slashes.length, List.eq_replicate_of_mem hslashes ▸ hbase⟩, hlast⟩

theorem isRest_iff : IsRest path rest ↔ trimPath path = rest := by
  have htrim : (trimPath path).toList = path.toList.dropWhile isSlash := String.toList_ofList
  constructor
  · rintro ⟨⟨n, hpath⟩, hhead⟩
    rw [← String.toList_inj, htrim, hpath, dropWhile_isSlash hhead]
  · rintro rfl
    refine ⟨⟨(path.toList.takeWhile isSlash).length, ?_⟩, fun hhead => ?_⟩
    · have hslashes : ∀ c ∈ path.toList.takeWhile isSlash, c = '/' := fun c hc => by
        simpa [isSlash] using List.mem_takeWhile_imp hc
      rw [htrim, ← List.eq_replicate_of_mem hslashes, List.takeWhile_append_dropWhile]
    · have hnot := List.head?_dropWhile_not isSlash path.toList
      rw [← htrim, hhead] at hnot
      exact Bool.noConfusion hnot

theorem existsUnique_isStem (base : String) : ∃! stem, IsStem base stem :=
  ⟨trimBase base, isStem_iff.2 rfl, fun _ h => (isStem_iff.1 h).symm⟩

/-- A text without slashes at its end is left of itself. -/
theorem IsStem.self (h : IsStem base stem) : IsStem stem stem := ⟨⟨0, by simp⟩, h.last⟩

theorem trimBase_trimBase (base : String) : trimBase (trimBase base) = trimBase base :=
  isStem_iff.1 (isStem_iff.2 rfl : IsStem base _).self

theorem exists_unslashed (handle : String) : ∃ rest, Unslashed handle rest := by
  by_cases h : handle.toList.head? = some '/'
  · obtain ⟨more, hmore⟩ := List.head?_eq_some_iff.1 h
    have hhandle : handle = "/" ++ String.ofList more := by
      rw [← String.toList_inj, hmore]
      simp
    rw [hhandle]
    exact ⟨_, .slash _⟩
  · exact ⟨handle, .bare h⟩

/-- Of a handle that does not start with two slashes, all slashes at the start are dropped. -/
theorem Unslashed.isRest_iff (h : Unslashed handle rest) :
    IsRest handle rest ↔ ¬ ['/', '/'] <+: handle.toList := by
  cases h with
  | slash rest =>
    have htwo : ['/', '/'] <+: ("/" ++ rest).toList ↔ rest.toList.head? = some '/' := by
      cases hrest : rest.toList <;> simp [hrest, eq_comm]
    rw [htwo]
    exact ⟨fun h => h.head, fun h => ⟨⟨1, by simp⟩, h⟩⟩
  | bare hbare =>
    refine iff_of_true ⟨⟨0, by simp⟩, hbare⟩ ?_
    rintro ⟨more, hmore⟩
    exact hbare (by simp [← hmore])

/-! ## Addresses -/

theorem solve_eq (h : IsStem base stem) (package : String) :
    solve base package = stem ++ "/" ++ ("package/" ++ package ++ "/solve") := by
  have hpath : "/package/" = "/" ++ "package/" := rfl
  rw [solve, isStem_iff.1 h, hpath]
  simp only [String.append_assoc]

theorem join_eq (h : IsStem base stem) (hrest : IsRest path rest) :
    join base path = stem ++ "/" ++ rest := by
  rw [join, isStem_iff.1 h, isRest_iff.1 hrest]

theorem poll_eq (h : IsStem base stem) (hrelative : ¬ isHttp handle)
    (hrest : Unslashed handle rest) : poll base handle = stem ++ "/" ++ rest := by
  rw [poll, if_neg hrelative, isStem_iff.1 h]
  cases hrest with
  | slash rest =>
    rw [if_pos (by simp), String.append_assoc]
  | bare hbare =>
    refine if_neg fun hslash => hbare ?_
    obtain ⟨more, hmore⟩ := List.isPrefixOf_iff_prefix.1 hslash
    simp [← hmore]

/-- A handle that is no address is joined like a path just where it does not start with two
slashes. -/
theorem poll_eq_join_iff (hrelative : ¬ isHttp handle) (base : String) :
    poll base handle = join base handle ↔ ¬ ['/', '/'] <+: handle.toList := by
  have hstem : IsStem base (trimBase base) := isStem_iff.2 rfl
  obtain ⟨rest, hrest⟩ := exists_unslashed handle
  rw [poll_eq hstem hrelative hrest, join_eq hstem (Url.isRest_iff.2 rfl), ← hrest.isRest_iff,
    Url.isRest_iff, String.append_right_inj, eq_comm]

/-- Every address under a base is made of what is left of the base, one slash, and the rest. -/
theorem joining (base : String) : (∃! stem, IsStem base stem) ∧ ∀ stem, IsStem base stem →
    (∀ package, solve base package = stem ++ "/" ++ ("package/" ++ package ++ "/solve")) ∧
    (∀ path, ∃ rest, IsRest path rest ∧ join base path = stem ++ "/" ++ rest) ∧
    (∀ handle, ¬ isHttp handle →
      (∃ rest, Unslashed handle rest ∧ poll base handle = stem ++ "/" ++ rest) ∧
      (poll base handle = join base handle ↔ ¬ ['/', '/'] <+: handle.toList)) ∧
    ∀ handle, isHttp handle → poll base handle = handle := by
  refine ⟨existsUnique_isStem base, fun stem hstem => ⟨solve_eq hstem, fun path => ?_,
    fun handle hrelative => ⟨?_, poll_eq_join_iff hrelative base⟩, fun _ h => if_pos h⟩⟩
  · exact ⟨_, isRest_iff.2 rfl, join_eq hstem (isRest_iff.2 rfl)⟩
  · obtain ⟨rest, hrest⟩ := exists_unslashed handle
    exact ⟨rest, hrest, poll_eq hstem hrelative hrest⟩

/-- The second slash at the start of a handle is kept, and a path loses both. -/
example : poll "http://h//" "//t7" = "http://h//t7" ∧ join "http://h//" "//t7" = "http://h/t7" := by
  decide

/-- Whether the slashes at the end of a base were dropped before makes no difference. -/
theorem solve_trimBase (base package : String) :
    solve (trimBase base) package = solve base package := by
  rw [solve, trimBase_trimBase, solve]

theorem poll_trimBase (base handle : String) : poll (trimBase base) handle = poll base handle := by
  simp only [poll, trimBase_trimBase]

end PlanCourier.Url

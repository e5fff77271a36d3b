import PlanCourier.Proofs.Json.Grammar

/-!
# Values that are read back from their texts

A string is read back from the text it is written as, whatever characters it holds and whatever
follows it. So is every value in which no number stands; a number is another matter, because the
digits that are written of a real number are read by rounding.

Main statements:

- `readString_flatMap_escape`: a written string is read back;
- `read?_compactText`: so is a value without numbers, from its compact text.
-/

namespace PlanCourier.Json

variable {v : Json}

theorem skipGap_cons {c : Char} {cs : List Char} (h : isGap c = false) :
    skipGap (c :: cs) = c :: cs := by
  simp [skipGap, h]

/-! ## Strings -/

theorem readString_escape (c : Char) (cs : List Char) :
    readString (escape c ++ cs) = (readString cs).map fun (s, rest) => (c :: s, rest) := by
  unfold escape
  split
  -- the seven short escapes
  · simp [readString, shortEscape?]
  · simp [readString, shortEscape?]
  · simp [readString, shortEscape?]
  · simp [readString, shortEscape?]
  · simp [readString, shortEscape?]
  · simp [readString, shortEscape?]
  · simp [readString, shortEscape?]
  next hquote hbackslash _ _ _ _ _ =>
    split
    next hcontrol =>
      -- a character below the space is no half of a surrogate pair
      have hnone : ¬ 0xD800 ≤ c.toNat ∧ ¬ 0xDC00 ≤ c.toNat := by omega
      simp [readString, hexWord?_control hcontrol, hnone, Char.ofNat_toNat]
    next hcontrol =>
      rw [List.singleton_append, readString]
      · rw [if_neg (not_or.2 ⟨hcontrol, hbackslash⟩)]
      · intro h
        exact hquote h
      · intro _ _ _ _ _ h _
        exact hbackslash h
      · intro _ _ h _
        exact hbackslash h

/-- What is written of a string after its opening quote is read as this string. -/
theorem readString_flatMap_escape (s rest : List Char) :
    readString (s.flatMap escape ++ '"' :: rest) = some (s, rest) := by
  induction s with
  | nil => rfl
  | cons c s ih =>
    rw [List.flatMap_cons, List.append_assoc, readString_escape, ih]
    rfl

/-! ## Values without numbers -/

/-- No number stands in the value. -/
inductive Numberless : Json → Prop
  | null : Numberless .null
  | bool (b : Bool) : Numberless (.bool b)
  | text (s : String) : Numberless (.text s)
  | list {items : List Json} : (∀ v ∈ items, Numberless v) → Numberless (.list items)
  | object {ms : List (String × Json)} : (∀ m ∈ ms, Numberless m.2) → Numberless (.object ms)

/-- With one unit of fuel for each character of its text, the value is read back from it. -/
def ReadsBack (v : Json) : Prop :=
  ∀ fuel rest, (compact v).length ≤ fuel → readValue fuel (compact v ++ rest) = some (v, rest)

theorem exists_compact_eq_cons (h : Numberless v) :
    ∃ c cs, compact v = c :: cs ∧ isGap c = false ∧ c ≠ ']' := by
  cases h with
  | null => exact ⟨'n', _, rfl, rfl, by decide⟩
  | bool b =>
    cases b with
    | false => exact ⟨'f', _, rfl, rfl, by decide⟩
    | true => exact ⟨'t', _, rfl, rfl, by decide⟩
  | text s => exact ⟨'"', _, rfl, rfl, by decide⟩
  | @list items _ => cases items <;> exact ⟨'[', _, rfl, rfl, by decide⟩
  | @object ms _ => cases ms <;> exact ⟨'\x7b', _, rfl, rfl, by decide⟩

theorem exists_fuel (h : Numberless v) {fuel : Nat} (hfuel : (compact v).length ≤ fuel) :
    ∃ n, fuel = n + 1 := by
  obtain ⟨c, cs, hc, -, -⟩ := exists_compact_eq_cons h
  rw [hc, List.length_cons] at hfuel
  exact Nat.exists_eq_add_one.2 (by omega)

theorem readItems_compactItems {more : List Json} (h : ∀ w ∈ v :: more, ReadsBack w) (fuel : Nat)
    (rest : List Char) (hfuel : (compact v ++ compactItems more).length ≤ fuel) :
    readItems fuel (compact v ++ (compactItems more ++ rest)) = some (v :: more, rest) := by
  -- a comma or the closing bracket pays for the step to the next item
  induction more generalizing v fuel with
  | nil =>
    simp only [compactItems, List.length_append, List.length_cons, List.length_nil] at hfuel
    obtain ⟨fuel, rfl⟩ : ∃ n, fuel = n + 1 := Nat.exists_eq_add_one.2 (by omega)
    have hv := h v List.mem_cons_self fuel (']' :: rest) (by omega)
    simp [readItems, compactItems, hv, skipGap_cons (rfl : isGap ']' = false)]
  | cons w more ih =>
    simp only [compactItems, List.length_append, List.length_cons] at hfuel
    obtain ⟨fuel, rfl⟩ : ∃ n, fuel = n + 1 := Nat.exists_eq_add_one.2 (by omega)
    have hmore := ih (fun u hu => h u (List.mem_cons_of_mem v hu)) fuel
      (by rw [List.length_append]; omega)
    have hv := h v List.mem_cons_self fuel
      (',' :: (compact w ++ (compactItems more ++ rest))) (by omega)
    simp [readItems, compactItems, hv, skipGap_cons (rfl : isGap ',' = false), hmore]

theorem readMembers_compactMembers {k : String} {more : List (String × Json)}
    (h : ∀ m ∈ (k, v) :: more, ReadsBack m.2) (fuel : Nat) (rest : List Char)
    (hfuel : (printString k ++ ':' :: (compact v ++ compactMembers more)).length ≤ fuel) :
    readMembers fuel (printString k ++ ':' :: (compact v ++ (compactMembers more ++ rest))) =
      some ((k, v) :: more, rest) := by
  have hquote := @skipGap_cons '"'
  have hcolon := @skipGap_cons ':'
  induction more generalizing k v fuel with
  | nil =>
    simp only [compactMembers, List.length_append, List.length_cons] at hfuel
    obtain ⟨fuel, rfl⟩ : ∃ n, fuel = n + 1 := Nat.exists_eq_add_one.2 (by omega)
    have hv := h (k, v) List.mem_cons_self fuel ('\x7d' :: rest) (by dsimp only; omega)
    simp [readMembers, printString, compactMembers, hquote rfl, hcolon rfl,
      readString_flatMap_escape, hv, skipGap_cons (rfl : isGap '\x7d' = false)]
  | cons m more ih =>
    obtain ⟨l, w⟩ := m
    simp only [compactMembers, List.length_append, List.length_cons] at hfuel
    obtain ⟨fuel, rfl⟩ : ∃ n, fuel = n + 1 := Nat.exists_eq_add_one.2 (by omega)
    have hmore := ih (fun u hu => h u (List.mem_cons_of_mem (k, v) hu)) fuel
      (by simp only [List.length_append, List.length_cons]; omega)
    have hv := h (k, v) List.mem_cons_self fuel
      (',' :: (printString l ++ ':' :: (compact w ++ (compactMembers more ++ rest))))
      (by dsimp only; omega)
    simp only [printString, List.cons_append, List.append_assoc, List.nil_append] at hmore hv
    simp [readMembers, printString, compactMembers, hquote rfl, hcolon rfl,
      readString_flatMap_escape, hv, skipGap_cons (rfl : isGap ',' = false), hmore]

theorem readsBack_of_numberless (h : Numberless v) : ReadsBack v := by
  -- one case for each way a value without numbers is made
  induction h with
  | null =>
    intro fuel rest hfuel
    obtain ⟨fuel, rfl⟩ := exists_fuel .null hfuel
    rfl
  | bool b =>
    intro fuel rest hfuel
    obtain ⟨fuel, rfl⟩ := exists_fuel (.bool b) hfuel
    cases b <;> rfl
  | text s =>
    intro fuel rest hfuel
    obtain ⟨fuel, rfl⟩ := exists_fuel (.text s) hfuel
    simp [readValue, compact, printString, skipGap_cons (rfl : isGap '"' = false),
      readString_flatMap_escape]
  | @list items hitems ih =>
    intro fuel rest hfuel
    obtain ⟨fuel, rfl⟩ := exists_fuel (.list hitems) hfuel
    cases items with
    | nil => rfl
    | cons v more =>
      simp only [compact, List.length_cons] at hfuel
      have hread := readItems_compactItems ih fuel rest (by omega)
      obtain ⟨c, cs, hc, hgap, hend⟩ := exists_compact_eq_cons (hitems v List.mem_cons_self)
      rw [hc, List.cons_append] at hread
      simp [readValue, compact, skipGap_cons (rfl : isGap '[' = false), hc, skipGap_cons hgap,
        hread, hend]
  | @object ms hms ih =>
    intro fuel rest hfuel
    obtain ⟨fuel, rfl⟩ := exists_fuel (.object hms) hfuel
    rcases ms with _ | ⟨⟨k, v⟩, more⟩
    · rfl
    · simp only [compact, List.length_cons] at hfuel
      have hread := readMembers_compactMembers ih fuel rest (by omega)
      simp only [printString, List.cons_append, List.append_assoc, List.nil_append] at hread
      simp [readValue, compact, skipGap_cons (rfl : isGap '\x7b' = false), printString,
        skipGap_cons (rfl : isGap '"' = false), hread]

/-- A value without numbers is what its compact text is read as, member for member, unless it is
nested too deeply. -/
theorem read?_compactText (h : Numberless v) (hdepth : v.depth ≤ depthLimit) :
    read? v.compactText = some v := by
  have hread := readsBack_of_numberless h (2 * (compact v).length + 2) [] (by omega)
  rw [List.append_nil] at hread
  simp [read?, readStart, compactText, hread, skipGap, hdepth]

end PlanCourier.Json

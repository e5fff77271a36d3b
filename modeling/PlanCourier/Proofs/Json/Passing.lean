import PlanCourier.Json.Skip
import PlanCourier.Proofs.Json.Integers

/-!
# Values that are passed over

Whatever the grammar derives as a value is passed over up to its end: numbers of any size, strings
with half of a surrogate pair, lists and objects of any depth. With twice as many calls as the text
has characters the end is always reached.

Main statements:

- `skipNumber_append` and `skipString_append`: numbers and strings are passed over;
- `passes_of_derives`: so is what each rule of the grammar derives;
- `skipValue_of_derives`: so is a value with blanks before it.
-/

namespace PlanCourier.Json

variable {cs rest before : List Char}

/-! ## Numbers -/

theorem IsWhole.isDigits {ds : List Char} (h : IsWhole ds) : IsDigits ds := by
  cases h with
  | zero => exact ⟨by simp, by simp⟩
  | digits hds _ => exact hds

theorem IsDigits.append_ne_cons {ds rest' : List Char} {c : Char} (h : IsDigits ds)
    (hc : c.isDigit = false) : ds ++ rest ≠ c :: rest' := by
  intro heq
  cases ds with
  | nil => exact h.ne_nil rfl
  | cons d ds =>
    obtain rfl := (List.cons.inj heq).1
    rw [h.digits d List.mem_cons_self] at hc
    cases hc

theorem readFraction_append {fraction : List Char} (h : IsFraction fraction)
    (hrest : ∀ c, rest.head? = some c → c.isDigit = false ∧ c ≠ '.') :
    ∃ ds, readFraction (fraction ++ rest) = some (ds, rest) := by
  cases h with
  | none =>
    refine ⟨none, ?_⟩
    cases rest with
    | nil => rfl
    | cons c rest =>
      rw [List.nil_append, readFraction]
      rintro rest' ⟨⟩
      exact (hrest '.' rfl).2 rfl
  | @point ds hds =>
    refine ⟨some ds, ?_⟩
    rw [List.cons_append, readFraction, readDigits_append hds fun c hc => (hrest c hc).1]
    rfl

theorem readExponent_append {exponent : List Char} (h : IsExponent exponent)
    (hrest : EndsNumber rest) : ∃ power, readExponent (exponent ++ rest) = some (power, rest) := by
  cases h with
  | none => exact ⟨none, readExponent_of_endsNumber hrest⟩
  | @power mark sign ds hmark hsign hds =>
    have hread := readDigits_append hds fun c hc => (hrest c hc).1
    have hmark : mark = 'e' ∨ mark = 'E' := by simpa using hmark
    rw [List.cons_append, List.append_assoc]
    simp only [List.mem_cons, List.not_mem_nil, or_false] at hsign
    rcases hsign with rfl | rfl | rfl
    · refine ⟨some (digitsValue ds), ?_⟩
      rw [List.nil_append, readExponent, if_pos hmark, hread]
      · rfl
      · exact fun _ => hds.append_ne_cons rfl
      · exact fun _ => hds.append_ne_cons rfl
    · exact ⟨some (digitsValue ds), by simp [readExponent, hmark, hread]⟩
    · exact ⟨some (-(digitsValue ds : Int)), by simp [readExponent, hmark, hread]⟩

theorem skipNumber_append (h : IsNumber cs) (hrest : EndsNumber rest) :
    skipNumber (cs ++ rest) = some rest := by
  obtain @⟨sign, whole, fraction, exponent, hsign, hwhole, hfraction, hexponent⟩ := h
  -- what follows a part is told from it by its first character
  have hpower : ∀ c, (exponent ++ rest).head? = some c → c.isDigit = false ∧ c ≠ '.' := by
    intro c hc
    cases hexponent with
    | none => exact ⟨(hrest c hc).1, (hrest c hc).2.1⟩
    | power hmark _ _ =>
      obtain rfl := Option.some.inj hc
      simp only [List.mem_cons, List.not_mem_nil, or_false] at hmark
      rcases hmark with rfl | rfl <;> decide
  have hpoint : ∀ c, (fraction ++ (exponent ++ rest)).head? = some c → c.isDigit = false := by
    intro c hc
    cases hfraction with
    | none => exact (hpower c hc).1
    | point _ =>
      obtain rfl := Option.some.inj hc
      rfl
  have hread := readWhole_append hwhole hpoint
  obtain ⟨ds, hds⟩ := readFraction_append hfraction hpower
  obtain ⟨power, hpower⟩ := readExponent_append hexponent hrest
  simp only [List.mem_cons, List.not_mem_nil, or_false] at hsign
  rcases hsign with rfl | rfl
  · unfold skipNumber
    rw [List.nil_append, List.append_assoc, List.append_assoc]
    split
    next heq => exact absurd heq (hwhole.isDigits.append_ne_cons rfl)
    next => simp [hread, hds, hpower]
  · simp [skipNumber, hread, hds, hpower]

/-! ## Strings -/

theorem skipString_append {parts : List (List Char)} (h : ∀ p ∈ parts, IsCharacter p)
    (rest : List Char) : skipString (parts.flatten ++ '"' :: rest) = some rest := by
  induction parts with
  | nil => rfl
  | cons p parts ih =>
    obtain ⟨hp, hparts⟩ := List.forall_mem_cons.1 h
    rw [List.flatten_cons, List.append_assoc]
    cases hp with
    | @plain c hshown hquote hbackslash =>
      rw [List.singleton_append, skipString]
      · rw [if_neg (not_or.2 ⟨Nat.not_lt.2 hshown, hbackslash⟩), ih hparts]
      · exact hquote
      · exact fun _ _ _ _ _ h _ => hbackslash h
      · exact fun _ _ h _ => hbackslash h
    | @short c hescape =>
      rw [List.cons_append, List.singleton_append, skipString]
      · rw [if_pos hescape, ih hparts]
      · rintro _ _ _ _ _ rfl _
        cases hescape
    | code hword => simpa [skipString, hword] using ih hparts

/-! ## How a text starts -/

/-- Behind its blanks the text starts with something that closes nothing, whatever follows. -/
def Shows (cs : List Char) : Prop :=
  ∀ rest, ∃ c more, skipGap (cs ++ rest) = c :: more ∧ c ≠ ']' ∧ c ≠ '\x7d'

theorem Shows.cons {c : Char} (hgap : isGap c = false) (hclose : c ≠ ']' ∧ c ≠ '\x7d')
    (cs : List Char) : Shows (c :: cs) :=
  fun rest => ⟨c, cs ++ rest, skipGap_cons hgap, hclose⟩

theorem Shows.append (h : Shows cs) (ds : List Char) : Shows (cs ++ ds) := by
  intro rest
  rw [List.append_assoc]
  exact h (ds ++ rest)

theorem Shows.blanks (hbefore : IsBlanks before) (h : Shows cs) : Shows (before ++ cs) := by
  intro rest
  rw [List.append_assoc, skipGap_append hbefore]
  exact h rest

theorem exists_cons_of_isNumber (h : IsNumber cs) :
    ∃ c more, cs = c :: more ∧ (c = '-' ∨ c.isDigit = true) := by
  obtain @⟨sign, whole, fraction, exponent, hsign, hwhole, -, -⟩ := h
  simp only [List.mem_cons, List.not_mem_nil, or_false] at hsign
  rcases hsign with rfl | rfl
  · have hdigits := hwhole.isDigits
    cases whole with
    | nil => exact absurd rfl hdigits.ne_nil
    | cons d ds => exact ⟨d, _, rfl, .inr (hdigits.digits d List.mem_cons_self)⟩
  · exact ⟨'-', _, rfl, .inl rfl⟩

theorem shows_of_derives {r : Rule} (h : Derives r cs) : Shows cs := by
  induction h with
  | null => exact .cons rfl (by decide) _
  | true => exact .cons rfl (by decide) _
  | false => exact .cons rfl (by decide) _
  | number h =>
    obtain ⟨c, more, rfl, hc⟩ := exists_cons_of_isNumber h
    refine .cons (isGap_eq_false hc) ?_ more
    constructor <;> rintro rfl <;> revert hc <;> decide
  | string h =>
    cases h
    exact .cons rfl (by decide) _
  | emptyList _ => exact .cons rfl (by decide) _
  | list _ _ => exact .cons rfl (by decide) _
  | emptyObject _ => exact .cons rfl (by decide) _
  | object _ _ => exact .cons rfl (by decide) _
  | element hbefore _ _ ih => exact (ih.append _).blanks hbefore
  | lastElement _ ih => exact ih
  | moreElements _ _ ih _ => exact ih.append _
  | member hbefore hname _ _ _ =>
    cases hname
    exact (Shows.cons rfl (by decide) _).blanks hbefore
  | lastMember _ ih => exact ih
  | moreMembers _ _ ih _ => exact ih.append _

/-- A value is a string, or starts with something else than a quote. -/
theorem isString_or_exists_cons (h : Derives .value cs) :
    (∃ parts, (∀ p ∈ parts, IsCharacter p) ∧ cs = '"' :: (List.flatten parts ++ ['"'])) ∨
      ∃ c more, cs = c :: more ∧ isGap c = false ∧ c ≠ '"' := by
  cases h with
  | string h =>
    obtain ⟨hparts⟩ := h
    exact .inl ⟨_, hparts, rfl⟩
  | number h =>
    obtain ⟨c, more, rfl, hc⟩ := exists_cons_of_isNumber h
    refine .inr ⟨c, more, rfl, isGap_eq_false hc, ?_⟩
    rintro rfl
    revert hc
    decide
  | null => exact .inr ⟨_, _, rfl, rfl, by decide⟩
  | true => exact .inr ⟨_, _, rfl, rfl, by decide⟩
  | false => exact .inr ⟨_, _, rfl, rfl, by decide⟩
  | emptyList _ => exact .inr ⟨_, _, rfl, rfl, by decide⟩
  | list _ => exact .inr ⟨_, _, rfl, rfl, by decide⟩
  | emptyObject _ => exact .inr ⟨_, _, rfl, rfl, by decide⟩
  | object _ => exact .inr ⟨_, _, rfl, rfl, by decide⟩

/-! ## Values -/

theorem skipValueWithin_append (h : IsBlanks before) (fuel : Nat) (cs : List Char) :
    skipValueWithin fuel (before ++ cs) = skipValueWithin fuel cs := by
  cases fuel with
  | zero => rfl
  | succ fuel => rw [skipValueWithin, skipValueWithin, skipGap_append h]

theorem skipValueWithin_of_head {c : Char} (hc : c = '-' ∨ c.isDigit = true) (fuel : Nat)
    (cs : List Char) : skipValueWithin (fuel + 1) (c :: cs) = skipNumber (c :: cs) := by
  have hother {d : Char} {ds : List Char} (heq : c :: cs = d :: ds)
      (hd : ¬ (d = '-' ∨ d.isDigit = true)) : False := hd ((List.cons.inj heq).1 ▸ hc)
  rw [skipValueWithin, skipGap_cons (isGap_eq_false hc)]
  split
  case h_7 => rfl
  all_goals
    next heq => exact (hother heq (by decide)).elim

theorem skipItems_skipGap (fuel : Nat) (cs : List Char) :
    skipItems fuel (skipGap cs) = skipItems fuel cs := by
  cases fuel with
  | zero => rfl
  | succ fuel =>
    have hvalue : skipValueWithin fuel (skipGap cs) = skipValueWithin fuel cs := by
      cases fuel with
      | zero => rfl
      | succ fuel => rw [skipValueWithin, skipValueWithin, skipGap_skipGap]
    rw [skipItems, skipItems, hvalue]

theorem skipMembers_skipGap (fuel : Nat) (cs : List Char) :
    skipMembers fuel (skipGap cs) = skipMembers fuel cs := by
  cases fuel with
  | zero => rfl
  | succ fuel => rw [skipMembers, skipMembers, skipGap_skipGap]

/-- How what a rule derives is passed over. A value takes no more calls than one and two for each of
its characters. -/
def Passes : Rule → List Char → Prop
  | .value, cs => ∀ fuel, 2 * cs.length ≤ fuel → ∀ rest, EndsNumber rest →
      skipValueWithin (fuel + 1) (cs ++ rest) = some rest
  | .element, cs => ∀ fuel, 2 * cs.length ≤ fuel → ∀ rest, EndsNumber rest →
      ∃ after, skipValueWithin (fuel + 1) (cs ++ rest) = some after ∧ skipGap after = skipGap rest
  | .elements, cs => ∀ fuel, 2 * cs.length ≤ fuel → ∀ rest,
      skipItems (fuel + 2) (cs ++ ']' :: rest) = some rest
  | .member, cs => ∀ fuel, 2 * cs.length ≤ fuel → ∀ rest, EndsNumber rest →
      skipMembers (fuel + 2) (cs ++ rest) =
        match skipGap rest with
        | ',' :: rest => skipMembers (fuel + 1) rest
        | '\x7d' :: rest => some rest
        | _ => none
  | .members, cs => ∀ fuel, 2 * cs.length ≤ fuel → ∀ rest,
      skipMembers (fuel + 2) (cs ++ '\x7d' :: rest) = some rest

theorem passes_of_derives {r : Rule} (h : Derives r cs) : Passes r cs := by
  have hcomma := @endsNumber_mark ',' (by decide)
  have hbracket := @endsNumber_mark ']' (by decide)
  have hbrace := @endsNumber_mark '\x7d' (by decide)
  -- one case for each production of the grammar
  induction h with
  | null => exact fun fuel _ rest _ => rfl
  | true => exact fun fuel _ rest _ => rfl
  | false => exact fun fuel _ rest _ => rfl
  | number h =>
    intro fuel _ rest hrest
    have hskip := skipNumber_append h hrest
    obtain ⟨c, more, rfl, hc⟩ := exists_cons_of_isNumber h
    exact (skipValueWithin_of_head hc fuel _).trans hskip
  | string h =>
    intro fuel _ rest _
    obtain ⟨hparts⟩ := h
    simp [skipValueWithin, skipGap_cons (rfl : isGap '"' = false), skipString_append hparts]
  | emptyList h =>
    intro fuel _ rest _
    simp [skipValueWithin, skipGap_cons (rfl : isGap '[' = false), skipGap_append h,
      skipGap_cons (rfl : isGap ']' = false)]
  | @list cs h ih =>
    intro fuel hfuel rest _
    simp only [List.length_cons, List.length_append] at hfuel
    obtain ⟨fuel, rfl⟩ : ∃ n, fuel = n + 2 := ⟨fuel - 2, by omega⟩
    have hskip := ih fuel (by omega) rest
    obtain ⟨c, more, hshown, hend, -⟩ := shows_of_derives h (']' :: rest)
    rw [← skipItems_skipGap, hshown] at hskip
    simp [skipValueWithin, skipGap_cons (rfl : isGap '[' = false), hshown, hend, hskip]
  | emptyObject h =>
    intro fuel _ rest _
    simp [skipValueWithin, skipGap_cons (rfl : isGap '\x7b' = false), skipGap_append h,
      skipGap_cons (rfl : isGap '\x7d' = false)]
  | @object cs h ih =>
    intro fuel hfuel rest _
    simp only [List.length_cons, List.length_append] at hfuel
    obtain ⟨fuel, rfl⟩ : ∃ n, fuel = n + 2 := ⟨fuel - 2, by omega⟩
    have hskip := ih fuel (by omega) rest
    obtain ⟨c, more, hshown, -, hend⟩ := shows_of_derives h ('\x7d' :: rest)
    rw [← skipMembers_skipGap, hshown] at hskip
    simp [skipValueWithin, skipGap_cons (rfl : isGap '\x7b' = false), hshown, hend, hskip]
  | @element before cs after hbefore _ hafter ih =>
    intro fuel hfuel rest hrest
    simp only [List.length_append] at hfuel
    have hskip := ih fuel (by omega) (after ++ rest) (hrest.blanks hafter)
    refine ⟨after ++ rest, ?_, skipGap_append hafter rest⟩
    rw [List.append_assoc, List.append_assoc, skipValueWithin_append hbefore, hskip]
  | lastElement _ ih =>
    intro fuel hfuel rest
    obtain ⟨after, hskip, hafter⟩ := ih fuel hfuel (']' :: rest) (hbracket rest)
    simp [skipItems, hskip, hafter, skipGap_cons (rfl : isGap ']' = false)]
  | @moreElements cs more _ _ ih ihmore =>
    intro fuel hfuel rest
    simp only [List.length_append, List.length_cons] at hfuel
    obtain ⟨fuel, rfl⟩ : ∃ n, fuel = n + 1 := ⟨fuel - 1, by omega⟩
    obtain ⟨after, hskip, hafter⟩ :=
      ih (fuel + 1) (by omega) (',' :: (more ++ ']' :: rest)) (hcomma _)
    have hmore := ihmore fuel (by omega) rest
    rw [List.append_assoc, List.cons_append, skipItems]
    simp only [hskip, hafter, skipGap_cons (rfl : isGap ',' = false)]
    exact hmore
  | @member before name between cs hbefore hname hbetween _ ih =>
    intro fuel hfuel rest hrest
    simp only [List.length_append, List.length_cons] at hfuel
    obtain ⟨hparts⟩ := hname
    obtain ⟨after, hskip, hafter⟩ := ih fuel (by omega) rest hrest
    simp only [List.append_assoc, List.cons_append, List.nil_append]
    rw [skipMembers, skipGap_append hbefore, skipGap_cons rfl]
    simp only [skipString_append hparts, Option.map_some, skipGap_append hbetween,
      skipGap_cons (rfl : isGap ':' = false), hskip, hafter]
    -- a comma, a closing bracket, or neither
    split
    next heq =>
      rw [Option.some.inj heq]
      rfl
    next heq =>
      rw [Option.some.inj heq]
      rfl
    next hcomma hbrace =>
      split
      next heq => exact absurd (congrArg some heq) (hcomma _)
      next heq => exact absurd (congrArg some heq) (hbrace _)
      next => rfl
  | lastMember _ ih =>
    intro fuel hfuel rest
    rw [ih fuel hfuel ('\x7d' :: rest) (hbrace rest)]
    rfl
  | @moreMembers cs more _ _ ih ihmore =>
    intro fuel hfuel rest
    simp only [List.length_append, List.length_cons] at hfuel
    obtain ⟨fuel, rfl⟩ : ∃ n, fuel = n + 1 := ⟨fuel - 1, by omega⟩
    rw [List.append_assoc, List.cons_append, ih (fuel + 1) (by omega) _ (hcomma _),
      skipGap_cons rfl]
    exact ihmore fuel (by omega) rest

/-- A value with blanks before it is passed over up to its end. -/
theorem skipValue_of_derives (hbefore : IsBlanks before) (h : Derives .value cs)
    (hrest : EndsNumber rest) : skipValue (before ++ (cs ++ rest)) = some rest := by
  have hpasses : Passes .value cs := passes_of_derives h
  rw [skipValue, skipValueWithin_append hbefore]
  refine hpasses _ ?_ rest hrest
  simp only [List.length_append]
  omega

end PlanCourier.Json

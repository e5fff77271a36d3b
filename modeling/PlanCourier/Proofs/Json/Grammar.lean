import PlanCourier.Json.Printer
import PlanCourier.Json.Reader

/-!
# The grammar of JSON texts

Which texts are JSON texts, said by a grammar and not by a reader or a printer: `Derives r cs` says
that the rule `r` derives the text `cs`, with one constructor for each production. A JSON text is
one value with blanks around it.

Both ways to write a value give a text that the grammar derives, whatever the value is.

Main statements:

- `isNumber_render`: real numbers are written as numbers of the grammar;
- `derives_compact` and `derives_prettyAt`: so are values, in both ways;
- `IsText.ne_nil`: a JSON text is not empty.
-/

namespace PlanCourier.Json

open PlanCourier.Text PlanCourier.Real

def IsBlanks (cs : List Char) : Prop := ∀ c ∈ cs, isGap c = true

structure IsDigits (cs : List Char) : Prop where
  ne_nil : cs ≠ []
  digits : ∀ c ∈ cs, c.isDigit = true

/-- Digits that do not start with a zero, or a zero alone. -/
inductive IsWhole : List Char → Prop
  | zero : IsWhole ['0']
  | digits {cs : List Char} : IsDigits cs → cs.head? ≠ some '0' → IsWhole cs

/-- The part of a number from its point on, which may be left out. -/
inductive IsFraction : List Char → Prop
  | none : IsFraction []
  | point {cs : List Char} : IsDigits cs → IsFraction ('.' :: cs)

/-- The exponent of a number, which may be left out. -/
inductive IsExponent : List Char → Prop
  | none : IsExponent []
  | power {mark : Char} {sign cs : List Char} : mark ∈ ['e', 'E'] → sign ∈ [[], ['+'], ['-']] →
      IsDigits cs → IsExponent (mark :: (sign ++ cs))

inductive IsNumber : List Char → Prop
  | parts {sign whole fraction exponent : List Char} : sign ∈ [[], ['-']] → IsWhole whole →
      IsFraction fraction → IsExponent exponent →
      IsNumber (sign ++ (whole ++ (fraction ++ exponent)))

/-- How one character of a string is written. -/
inductive IsCharacter : List Char → Prop
  | plain {c : Char} : 0x20 ≤ c.toNat → c ≠ '"' → c ≠ '\\' → IsCharacter [c]
  | short {c : Char} : (shortEscape? c).isSome → IsCharacter ['\\', c]
  | code {a b c d : Char} : (hexWord? a b c d).isSome → IsCharacter ['\\', 'u', a, b, c, d]

inductive IsString : List Char → Prop
  | quoted {parts : List (List Char)} : (∀ p ∈ parts, IsCharacter p) →
      IsString ('"' :: (parts.flatten ++ ['"']))

/-- The rules that refer to each other. -/
inductive Rule where
  | value
  | element
  | elements
  | member
  | members

/-- The texts that a rule derives. -/
inductive Derives : Rule → List Char → Prop
  | null : Derives .value "null".toList
  | true : Derives .value "true".toList
  | false : Derives .value "false".toList
  | number {cs} : IsNumber cs → Derives .value cs
  | string {cs} : IsString cs → Derives .value cs
  | emptyList {cs} : IsBlanks cs → Derives .value ('[' :: (cs ++ [']']))
  | list {cs} : Derives .elements cs → Derives .value ('[' :: (cs ++ [']']))
  | emptyObject {cs} : IsBlanks cs → Derives .value ('\x7b' :: (cs ++ ['\x7d']))
  | object {cs} : Derives .members cs → Derives .value ('\x7b' :: (cs ++ ['\x7d']))
  | element {before cs after} : IsBlanks before → Derives .value cs → IsBlanks after →
      Derives .element (before ++ (cs ++ after))
  | lastElement {cs} : Derives .element cs → Derives .elements cs
  | moreElements {cs rest} : Derives .element cs → Derives .elements rest →
      Derives .elements (cs ++ ',' :: rest)
  | member {before name after cs} : IsBlanks before → IsString name → IsBlanks after →
      Derives .element cs → Derives .member (before ++ (name ++ (after ++ ':' :: cs)))
  | lastMember {cs} : Derives .member cs → Derives .members cs
  | moreMembers {cs rest} : Derives .member cs → Derives .members rest →
      Derives .members (cs ++ ',' :: rest)

/-- A text that is one value, with blanks around it. -/
def IsText (cs : List Char) : Prop := Derives .element cs

/-! ## Numbers -/

theorem isDigits_natural (n : Nat) : IsDigits (natural n) :=
  ⟨natural_ne_nil n, fun _ => natural_digits⟩

theorem head?_append_of_ne_nil {α : Type} {xs ys : List α} (h : xs ≠ []) :
    (xs ++ ys).head? = xs.head? := by
  cases xs with
  | nil => exact absurd rfl h
  | cons x xs => rfl

theorem head?_natural {n : Nat} (h : n ≠ 0) : (natural n).head? ≠ some '0' := by
  induction n using Nat.strongRecOn with
  | ind n ih =>
    unfold natural at ih ⊢
    by_cases hn : n < 10
    · simpa [Nat.toDigits_of_lt_base hn] using h
    · have hten : 10 ≤ n := by omega
      rw [Nat.toDigits_of_base_le (by decide) hten, head?_append_of_ne_nil Nat.toDigits_ne_nil]
      exact ih (n / 10) (by omega) (by omega)

theorem isWhole_natural (n : Nat) : IsWhole (natural n) := by
  by_cases h : n = 0
  · subst h
    exact .zero
  · exact .digits (isDigits_natural n) (head?_natural h)

theorem isWhole_append {n : Nat} (h : n ≠ 0) {cs : List Char} (hcs : ∀ c ∈ cs, c.isDigit = true) :
    IsWhole (natural n ++ cs) := by
  refine .digits ⟨by simp [natural_ne_nil], fun c hc => ?_⟩ ?_
  · exact (List.mem_append.1 hc).elim natural_digits (hcs c)
  · rw [head?_append_of_ne_nil (natural_ne_nil n)]
    exact head?_natural h

theorem isNumber_integer (i : Int) : IsNumber (integer i) := by
  cases i with
  | ofNat n =>
    have h : IsNumber ([] ++ (natural n ++ ([] ++ []))) :=
      .parts (by simp) (isWhole_natural n) .none .none
    simpa [integer] using h
  | negSucc n =>
    have h : IsNumber (['-'] ++ (natural (n + 1) ++ ([] ++ []))) :=
      .parts (by simp) (isWhole_natural (n + 1)) .none .none
    simpa [integer] using h

theorem isDigit_of_mem_zeros {n : Nat} {c : Char} (h : c ∈ zeros n) : c.isDigit = true := by
  rw [List.eq_of_mem_replicate h]
  rfl

theorem isNumber_signed (negative : Bool) {whole fraction exponent : List Char}
    (hwhole : IsWhole whole) (hfraction : IsFraction fraction) (hexponent : IsExponent exponent) :
    IsNumber (if negative then '-' :: (whole ++ (fraction ++ exponent))
      else whole ++ (fraction ++ exponent)) := by
  have hsigned : ∀ sign ∈ [[], ['-']], IsNumber (sign ++ (whole ++ (fraction ++ exponent))) :=
    fun sign hsign => .parts hsign hwhole hfraction hexponent
  cases negative with
  | false => exact hsigned [] (by simp)
  | true => exact hsigned ['-'] (by simp)

/-- Digits with a point among them or after them are a whole number and a fraction. -/
theorem withPoint_eq {n : Nat} {point : Int} (h : n ≠ 0 ∨ point = 1) :
    ∃ whole fraction, IsWhole whole ∧ IsFraction fraction ∧
      withPoint (natural n) point true = whole ++ fraction := by
  unfold withPoint
  split
  next =>
    refine ⟨['0'], '.' :: (zeros (-point).toNat ++ natural n), .zero,
      .point ⟨?_, fun c hc => ?_⟩, rfl⟩
    · simp [natural_ne_nil]
    · exact (List.mem_append.1 hc).elim isDigit_of_mem_zeros natural_digits
  next hpoint =>
    split
    next =>
      have hfraction : IsFraction ['.', '0'] := .point ⟨by simp, by simp⟩
      refine ⟨natural n ++ zeros (point.toNat - (natural n).length), ['.', '0'], ?_, hfraction,
        by simp⟩
      by_cases hn : n = 0
      · obtain rfl : point = 1 := h.resolve_left (· hn)
        subst hn
        exact .zero
      · exact isWhole_append hn fun c => isDigit_of_mem_zeros
    next hlength =>
      have hn : n ≠ 0 := by
        rintro rfl
        obtain rfl : point = 1 := h.resolve_left (· rfl)
        exact hlength (by decide)
      have hne : point.toNat ≠ 0 := by omega
      refine ⟨(natural n).take point.toNat, '.' :: (natural n).drop point.toNat,
        .digits ⟨?_, fun c hc => natural_digits (List.mem_of_mem_take hc)⟩ ?_,
        .point ⟨?_, fun c hc => natural_digits (List.mem_of_mem_drop hc)⟩, rfl⟩
      · simp [hne, natural_ne_nil]
      · rw [List.head?_take, if_neg hne]
        exact head?_natural hn
      · simpa using hlength

/-- Digits with an exponent are a digit, a fraction and the exponent. -/
theorem withExponent_eq (n : Nat) (e : Int) :
    ∃ whole fraction exponent, IsWhole whole ∧ IsFraction fraction ∧ IsExponent exponent ∧
      withExponent (natural n) e = whole ++ (fraction ++ exponent) := by
  have hexponent : IsExponent ('e' :: (if e < 0 then '-' else '+') :: natural e.natAbs) := by
    have hsigned : ∀ sign ∈ [[], ['+'], ['-']],
        IsExponent ('e' :: (sign ++ natural e.natAbs)) :=
      fun sign hsign => .power (by simp) hsign (isDigits_natural e.natAbs)
    split
    · exact hsigned ['-'] (by simp)
    · exact hsigned ['+'] (by simp)
  unfold withExponent
  have hdigits : ∀ c ∈ natural n, c.isDigit = true := fun c => natural_digits
  have hne := natural_ne_nil n
  have hwhole := isWhole_natural n
  match hds : natural n with
  | [] => exact absurd hds hne
  | [d] => exact ⟨[d], [], _, hds ▸ hwhole, .none, hexponent, rfl⟩
  | d :: d' :: rest =>
    rw [hds] at hdigits hwhole
    have hfirst : IsWhole [d] := by
      cases hwhole with
      | digits _ hhead => exact .digits ⟨by simp, fun c hc => hdigits c (by simp_all)⟩ hhead
    have hfraction : IsFraction ('.' :: d' :: rest) :=
      .point ⟨by simp, fun c hc => hdigits c (List.mem_cons_of_mem _ hc)⟩
    exact ⟨[d], _, _, hfirst, hfraction, hexponent, rfl⟩

/-- A real number is written as a number of the grammar, whatever its shortest decimal is. -/
theorem isNumber_render (x : Binary64) : IsNumber (Layout.json.render x) := by
  unfold Layout.render
  dsimp only [Layout.json]
  generalize x.shortest .toEven = d
  generalize hexponent : (if d.digits = 0 then (0 : Int)
    else d.exponent + (natural d.digits).length - 1) = e
  have hbody : ∃ whole fraction power, IsWhole whole ∧ IsFraction fraction ∧ IsExponent power ∧
      (if -5 ≤ e ∧ e ≤ 15 then withPoint (natural d.digits) (e + 1) true
        else withExponent (natural d.digits) e) = whole ++ (fraction ++ power) := by
    split
    next =>
      have hpoint : d.digits ≠ 0 ∨ e + 1 = 1 := by
        by_cases h : d.digits = 0
        · rw [if_pos h] at hexponent
          exact .inr (by omega)
        · exact .inl h
      obtain ⟨whole, fraction, hwhole, hfraction, heq⟩ := withPoint_eq hpoint
      exact ⟨whole, fraction, [], hwhole, hfraction, .none, by simpa using heq⟩
    next => exact withExponent_eq d.digits e
  obtain ⟨whole, fraction, power, hwhole, hfraction, hpower, heq⟩ := hbody
  rw [heq]
  exact isNumber_signed d.negative hwhole hfraction hpower

theorem isNumber_printNumber (n : Number) : IsNumber (printNumber n) := by
  cases n with
  | whole i => exact isNumber_integer i
  | real x => exact isNumber_render x

/-! ## Strings -/

theorem hexWord?_control {n : Nat} (h : n < 0x20) :
    hexWord? '0' '0' (Nat.digitChar (n / 16)) (Nat.digitChar (n % 16)) = some n := by
  revert n
  decide

theorem isCharacter_escape (c : Char) : IsCharacter (escape c) := by
  unfold escape
  split
  next => exact .short rfl
  next => exact .short rfl
  next => exact .short rfl
  next => exact .short rfl
  next => exact .short rfl
  next => exact .short rfl
  next => exact .short rfl
  next hquote hbackslash _ _ _ _ _ =>
    split
    next hcontrol => exact .code (by rw [hexWord?_control hcontrol]; rfl)
    next hcontrol => exact .plain (by omega) hquote hbackslash

theorem isString_printString (s : String) : IsString (printString s) := by
  have h : ∀ p ∈ s.toList.map escape, IsCharacter p := by
    intro p hp
    obtain ⟨c, -, rfl⟩ := List.mem_map.1 hp
    exact isCharacter_escape c
  exact .quoted h

/-! ## Values -/

variable {cs : List Char}

theorem isBlanks_nil : IsBlanks [] := by simp [IsBlanks]

theorem isBlanks_newLine (level : Nat) : IsBlanks (newLine level) := by
  intro c hc
  obtain rfl | hc := List.mem_cons.1 hc
  · rfl
  · rw [List.eq_of_mem_replicate hc]
    rfl

/-- A text that the rule derives whatever blanks follow it. -/
def Stands (r : Rule) (cs : List Char) : Prop :=
  ∀ after, IsBlanks after → Derives r (cs ++ after)

theorem Derives.stands {before : List Char} (hbefore : IsBlanks before) (h : Derives .value cs) :
    Stands .element (before ++ cs) := by
  intro after hafter
  rw [List.append_assoc]
  exact .element hbefore h hafter

theorem Stands.member {before between : List Char} (hbefore : IsBlanks before) (name : String)
    (hbetween : IsBlanks between) (h : Derives .value cs) :
    Stands .member (before ++ (printString name ++ ':' :: (between ++ cs))) := by
  intro after hafter
  have hvalue : Derives .element (between ++ (cs ++ after)) := .element hbetween h hafter
  have hmember := Derives.member hbefore (isString_printString name) isBlanks_nil hvalue
  simpa using hmember

mutual

theorem derives_compact : ∀ v : Json, Derives .value (compact v)
  | .null => .null
  | .bool true => .true
  | .bool false => .false
  | .number n => .number (isNumber_printNumber n)
  | .text s => .string (isString_printString s)
  | .list [] => .emptyList isBlanks_nil
  | .list (v :: rest) => by
    have hfirst := (derives_compact v).stands isBlanks_nil
    obtain ⟨body, heq, hbody⟩ := derives_compactItems hfirst rest
    rw [compact, ← List.nil_append (compact v), heq]
    exact .list hbody
  | .object [] => .emptyObject isBlanks_nil
  | .object ((k, v) :: rest) => by
    have hfirst := Stands.member isBlanks_nil k isBlanks_nil (derives_compact v)
    obtain ⟨body, heq, hbody⟩ := derives_compactMembers hfirst rest
    simp only [List.nil_append, List.append_assoc, List.cons_append] at heq
    rw [compact, heq]
    exact .object hbody

/-- The items after a first one are derived up to the end of the list. -/
theorem derives_compactItems {cs : List Char} (h : Stands .element cs) : ∀ rest : List Json,
    ∃ body, cs ++ compactItems rest = body ++ [']'] ∧ Derives .elements body
  | [] => ⟨cs, rfl, .lastElement (by simpa using h [] isBlanks_nil)⟩
  | v :: rest => by
    have hnext := (derives_compact v).stands isBlanks_nil
    obtain ⟨body, heq, hbody⟩ := derives_compactItems hnext rest
    refine ⟨cs ++ ',' :: body, ?_, .moreElements (by simpa using h [] isBlanks_nil) hbody⟩
    rw [compactItems, ← List.nil_append (compact v), heq]
    simp

/-- The members after a first one are derived up to the end of the object. -/
theorem derives_compactMembers {cs : List Char} (h : Stands .member cs) :
    ∀ rest : List (String × Json),
      ∃ body, cs ++ compactMembers rest = body ++ ['\x7d'] ∧ Derives .members body
  | [] => ⟨cs, rfl, .lastMember (by simpa using h [] isBlanks_nil)⟩
  | (k, v) :: rest => by
    have hnext := Stands.member isBlanks_nil k isBlanks_nil (derives_compact v)
    obtain ⟨body, heq, hbody⟩ := derives_compactMembers hnext rest
    simp only [List.nil_append, List.append_assoc, List.cons_append] at heq
    refine ⟨cs ++ ',' :: body, ?_, .moreMembers (by simpa using h [] isBlanks_nil) hbody⟩
    rw [compactMembers, heq]
    simp

end

theorem isBlanks_space : IsBlanks [' '] := by simp [IsBlanks, isGap]

mutual

theorem derives_prettyAt (level : Nat) : ∀ v : Json, Derives .value (prettyAt level v)
  | .null => .null
  | .bool true => .true
  | .bool false => .false
  | .number n => .number (isNumber_printNumber n)
  | .text s => .string (isString_printString s)
  | .list [] => .emptyList isBlanks_nil
  | .list (v :: rest) => by
    have hfirst := (derives_prettyAt (level + 1) v).stands (isBlanks_newLine (level + 1))
    obtain ⟨body, heq, hbody⟩ := derives_prettyItems level hfirst rest
    rw [prettyAt, heq]
    exact .list hbody
  | .object [] => .emptyObject isBlanks_nil
  | .object ((k, v) :: rest) => by
    have hfirst := Stands.member (isBlanks_newLine (level + 1)) k isBlanks_space
      (derives_prettyAt (level + 1) v)
    obtain ⟨body, heq, hbody⟩ := derives_prettyMembers level hfirst rest
    simp only [List.nil_append, List.append_assoc, List.cons_append] at heq
    rw [prettyAt]
    simp only [List.append_assoc, List.cons_append, heq]
    exact .object hbody

/-- The items after a first one are derived up to the end of the list. -/
theorem derives_prettyItems (level : Nat) {cs : List Char} (h : Stands .element cs) :
    ∀ rest : List Json,
      ∃ body, cs ++ prettyItems level rest = body ++ [']'] ∧ Derives .elements body
  | [] => ⟨cs ++ newLine level, by simp [prettyItems], .lastElement (h _ (isBlanks_newLine level))⟩
  | v :: rest => by
    have hnext := (derives_prettyAt (level + 1) v).stands (isBlanks_newLine (level + 1))
    obtain ⟨body, heq, hbody⟩ := derives_prettyItems level hnext rest
    refine ⟨cs ++ ',' :: body, ?_, .moreElements (by simpa using h [] isBlanks_nil) hbody⟩
    rw [prettyItems, heq]
    simp

/-- The members after a first one are derived up to the end of the object. -/
theorem derives_prettyMembers (level : Nat) {cs : List Char} (h : Stands .member cs) :
    ∀ rest : List (String × Json),
      ∃ body, cs ++ prettyMembers level rest = body ++ ['\x7d'] ∧ Derives .members body
  | [] => ⟨cs ++ newLine level, by simp [prettyMembers], .lastMember (h _ (isBlanks_newLine level))⟩
  | (k, v) :: rest => by
    have hnext := Stands.member (isBlanks_newLine (level + 1)) k isBlanks_space
      (derives_prettyAt (level + 1) v)
    obtain ⟨body, heq, hbody⟩ := derives_prettyMembers level hnext rest
    simp only [List.nil_append, List.append_assoc, List.cons_append] at heq
    refine ⟨cs ++ ',' :: body, ?_, .moreMembers (by simpa using h [] isBlanks_nil) hbody⟩
    rw [prettyMembers]
    simp only [List.append_assoc, List.cons_append, heq]

end

/-! ## JSON texts -/

theorem IsNumber.ne_nil (h : IsNumber cs) : cs ≠ [] := by
  cases h with
  | parts _ hwhole =>
    cases hwhole with
    | zero => simp
    | digits hdigits => simp [hdigits.ne_nil]

theorem value_ne_nil (h : Derives .value cs) : cs ≠ [] := by
  cases h with
  | number hnumber => exact hnumber.ne_nil
  | string hstring =>
    cases hstring
    exact List.cons_ne_nil _ _
  | _ => exact List.cons_ne_nil _ _

/-- The empty text is no JSON text. -/
theorem IsText.ne_nil (h : IsText cs) : cs ≠ [] := by
  cases h with
  | element _ hvalue _ => simp [value_ne_nil hvalue]

theorem isText_of_value {after : List Char} (h : Derives .value cs) (hafter : IsBlanks after) :
    IsText (cs ++ after) :=
  .element isBlanks_nil h hafter

end PlanCourier.Json

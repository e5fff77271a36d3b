import PlanCourier.Proofs.Json.Grammar

/-!
# Brackets of JSON texts

A text is read from left to right, and it is noted how many brackets are open and how many of them
were opened while no other one was. Brackets in strings do not count. All brackets of a value are
closed at its end, so within another value it leaves nothing behind, and alone it is one bracket
that was opened, or none. Hence two values with brackets, one after the other, are no JSON text.

Main statements:

- `after_of_derives`: whatever a rule derives leaves nothing behind within brackets;
- `after_of_value`: what a value leaves behind where no bracket is open;
- `not_isText_append`: two objects are not one JSON text.
-/

namespace PlanCourier.Json

/-- Whether the character opens a list or an object. -/
def isOpening (c : Char) : Bool := c == '[' || c == '\x7b'

def isClosing (c : Char) : Bool := c == ']' || c == '\x7d'

/-- Where a string is: between its characters, or after a backslash. -/
inductive Within where
  | string
  | escape
  deriving DecidableEq, Repr

/-- A place in a text. -/
structure Place where
  /-- How many brackets are open. -/
  depth : Nat
  /-- Where in a string the place is, if it is in one. -/
  within : Option Within
  /-- How many brackets were opened while no other one was open. -/
  opened : Nat
  deriving DecidableEq, Repr

namespace Place

/-- The place after one more character. -/
def next (p : Place) (c : Char) : Place :=
  match p.within with
  | some .escape => { p with within := some .string }
  | some .string =>
    if c = '"' then { p with within := none }
    else if c = '\\' then { p with within := some .escape }
    else p
  | none =>
    if c = '"' then { p with within := some .string }
    else if isOpening c then
      { p with depth := p.depth + 1, opened := if p.depth = 0 then p.opened + 1 else p.opened }
    else if isClosing c then { p with depth := p.depth - 1 }
    else p

def after (p : Place) (cs : List Char) : Place := cs.foldl next p

@[simp] theorem after_nil (p : Place) : p.after [] = p := rfl

@[simp] theorem after_cons (p : Place) (c : Char) (cs : List Char) :
    p.after (c :: cs) = (p.next c).after cs := rfl

@[simp] theorem after_append (p : Place) (cs ds : List Char) :
    p.after (cs ++ ds) = (p.after cs).after ds := List.foldl_append

/-- Outside of strings, with so many brackets open and so many opened before. -/
def outside (depth opened : Nat) : Place := ⟨depth, none, opened⟩

/-- Whether the character is neither a bracket nor a quote. -/
def isPlain (c : Char) : Bool := c != '"' && !isOpening c && !isClosing c

variable {d n : Nat} {cs : List Char}

theorem next_of_isPlain {c : Char} (h : isPlain c = true) : (outside d n).next c = outside d n := by
  simp_all [next, outside, isPlain]

theorem after_of_isPlain (h : ∀ c ∈ cs, isPlain c = true) :
    (outside d n).after cs = outside d n := by
  induction cs with
  | nil => rfl
  | cons c cs ih =>
    rw [after_cons, next_of_isPlain (h c List.mem_cons_self)]
    exact ih fun c hc => h c (List.mem_cons_of_mem _ hc)

end Place

/-! ## Parts without brackets -/

open Place

theorem isPlain_of_isBlanks {cs : List Char} (h : IsBlanks cs) : ∀ c ∈ cs, isPlain c = true := by
  intro c hc
  have hgap := h c hc
  simp only [isGap, Bool.or_eq_true, beq_iff_eq] at hgap
  rcases hgap with ((rfl | rfl) | rfl) | rfl <;> rfl

theorem isPlain_of_isDigits {cs : List Char} (h : IsDigits cs) : ∀ c ∈ cs, isPlain c = true := by
  intro c hc
  have hdigit := h.digits c hc
  have hne : ∀ m : Char, m.isDigit = false → c ≠ m := by
    rintro m hm rfl
    simp [hm] at hdigit
  simp [isPlain, isOpening, isClosing, hne]

theorem isPlain_of_isNumber {cs : List Char} (h : IsNumber cs) : ∀ c ∈ cs, isPlain c = true := by
  obtain ⟨hsign, hwhole, hfraction, hexponent⟩ := h
  simp only [List.forall_mem_append]
  refine ⟨?_, ?_, ?_, ?_⟩
  · simp only [List.mem_cons, List.not_mem_nil, or_false] at hsign
    obtain rfl | rfl := hsign <;> simp [isPlain, isOpening, isClosing]
  · cases hwhole with
    | zero => simp [isPlain, isOpening, isClosing]
    | digits hdigits => exact isPlain_of_isDigits hdigits
  · cases hfraction with
    | none => simp
    | point hdigits =>
      exact List.forall_mem_cons.2 ⟨rfl, isPlain_of_isDigits hdigits⟩
  · cases hexponent with
    | none => simp
    | power hmark hsign hdigits =>
      simp only [List.mem_cons, List.not_mem_nil, or_false] at hmark hsign
      refine List.forall_mem_cons.2 ⟨?_, List.forall_mem_append.2 ⟨?_, isPlain_of_isDigits hdigits⟩⟩
      · obtain rfl | rfl := hmark <;> rfl
      · obtain rfl | rfl | rfl := hsign <;> simp [isPlain, isOpening, isClosing]

theorem ne_of_hexDigit? {c : Char} (h : (hexDigit? c).isSome) : c ≠ '"' ∧ c ≠ '\\' := by
  constructor
  · rintro rfl
    simp [hexDigit?] at h
  · rintro rfl
    simp [hexDigit?] at h

theorem isSome_of_hexWord? {a b c d : Char} (h : (hexWord? a b c d).isSome) :
    (hexDigit? a).isSome ∧ (hexDigit? b).isSome ∧ (hexDigit? c).isSome ∧ (hexDigit? d).isSome := by
  unfold hexWord? at h
  cases ha : hexDigit? a <;> cases hb : hexDigit? b <;> cases hc : hexDigit? c <;>
    cases hd : hexDigit? d <;> simp_all

theorem after_of_isCharacter {cs : List Char} (h : IsCharacter cs) (d n : Nat) :
    (Place.mk d (some .string) n).after cs = ⟨d, some .string, n⟩ := by
  cases h with
  | plain _ hquote hbackslash => simp [next, hquote, hbackslash]
  | short => simp [next]
  | code hword =>
    obtain ⟨ha, hb, hc, hd⟩ := isSome_of_hexWord? hword
    simp [next, ne_of_hexDigit?, ha, hb, hc, hd]

theorem after_of_isString {cs : List Char} (h : IsString cs) (d n : Nat) :
    (outside d n).after cs = outside d n := by
  cases h with
  | @quoted parts hparts =>
    have hbody : (Place.mk d (some .string) n).after parts.flatten = ⟨d, some .string, n⟩ := by
      induction parts with
      | nil => rfl
      | cons p rest ih =>
        rw [List.flatten_cons, after_append, after_of_isCharacter (hparts p List.mem_cons_self)]
        exact ih fun q hq => hparts q (List.mem_cons_of_mem _ hq)
    have hopen : (outside d n).next '"' = ⟨d, some .string, n⟩ := rfl
    have hclose : (Place.mk d (some .string) n).next '"' = outside d n := rfl
    rw [after_cons, hopen, after_append, hbody, after_cons, hclose, after_nil]

/-! ## Values -/

/-- What leaves nothing behind within brackets is one opened bracket when it is put in brackets,
where no other one is open. -/
theorem after_bracketed {o z : Char} {cs : List Char} (ho : isOpening o = true)
    (hz : isClosing z = true) {d n : Nat}
    (h : ∀ n, (outside (d + 1) n).after cs = outside (d + 1) n) :
    (outside d n).after (o :: (cs ++ [z])) = outside d (if d = 0 then n + 1 else n) := by
  have hopen : (outside d n).next o = outside (d + 1) (if d = 0 then n + 1 else n) := by
    have hquote : o ≠ '"' := by
      rintro rfl
      cases ho
    cases d <;> simp [next, outside, hquote, ho]
  have hclose : ∀ m, (outside (d + 1) m).next z = outside d m := by
    intro m
    have hquote : z ≠ '"' := by
      rintro rfl
      cases hz
    have hopening : isOpening z = false := by
      simp only [isClosing, Bool.or_eq_true, beq_iff_eq] at hz
      obtain rfl | rfl := hz <;> rfl
    simp [next, outside, hquote, hopening, hz]
  rw [after_cons, hopen, after_append, h, after_cons, hclose, after_nil]

/-- Whatever a rule derives leaves nothing behind within brackets. -/
theorem after_of_derives {r : Rule} {cs : List Char} (h : Derives r cs) (d n : Nat) :
    (outside (d + 1) n).after cs = outside (d + 1) n := by
  induction h generalizing d n with
  | null => rfl
  | true => rfl
  | false => rfl
  | number hnumber => exact after_of_isPlain (isPlain_of_isNumber hnumber)
  | string hstring => exact after_of_isString hstring _ n
  | emptyList hblanks =>
    exact after_bracketed rfl rfl fun n => after_of_isPlain (isPlain_of_isBlanks hblanks)
  | list _ ih => exact after_bracketed rfl rfl fun n => ih (d + 1) n
  | emptyObject hblanks =>
    exact after_bracketed rfl rfl fun n => after_of_isPlain (isPlain_of_isBlanks hblanks)
  | object _ ih => exact after_bracketed rfl rfl fun n => ih (d + 1) n
  | element hbefore _ hafter ih =>
    rw [after_append, after_of_isPlain (isPlain_of_isBlanks hbefore), after_append, ih,
      after_of_isPlain (isPlain_of_isBlanks hafter)]
  | lastElement _ ih => exact ih d n
  | moreElements _ _ ih ihrest =>
    rw [after_append, ih, after_cons, next_of_isPlain rfl, ihrest]
  | member hbefore hname hafter _ ih =>
    rw [after_append, after_of_isPlain (isPlain_of_isBlanks hbefore), after_append,
      after_of_isString hname, after_append, after_of_isPlain (isPlain_of_isBlanks hafter),
      after_cons, next_of_isPlain rfl, ih]
  | lastMember _ ih => exact ih d n
  | moreMembers _ _ ih ihrest =>
    rw [after_append, ih, after_cons, next_of_isPlain rfl, ihrest]

/-- Where no bracket is open, a value leaves behind whether it has brackets. -/
theorem after_of_value {cs : List Char} (h : Derives .value cs) (n : Nat) :
    (outside 0 n).after cs = outside 0 (if cs.head?.any isOpening then n + 1 else n) := by
  cases h with
  | null => rfl
  | true => rfl
  | false => rfl
  | number hnumber =>
    have hplain := isPlain_of_isNumber hnumber
    rw [after_of_isPlain hplain]
    cases cs with
    | nil => rfl
    | cons c cs =>
      have hc := hplain c List.mem_cons_self
      simp only [isPlain, Bool.and_eq_true, Bool.not_eq_true'] at hc
      simp [hc.1.2]
  | string hstring =>
    rw [after_of_isString hstring]
    cases hstring
    rfl
  | emptyList hblanks =>
    exact after_bracketed rfl rfl fun n => after_of_isPlain (isPlain_of_isBlanks hblanks)
  | list helements => exact after_bracketed rfl rfl fun n => after_of_derives helements 0 n
  | emptyObject hblanks =>
    exact after_bracketed rfl rfl fun n => after_of_isPlain (isPlain_of_isBlanks hblanks)
  | object hmembers => exact after_bracketed rfl rfl fun n => after_of_derives hmembers 0 n

/-- In a JSON text at most one bracket is opened where no other one is open. -/
theorem opened_of_isText {cs : List Char} (h : IsText cs) :
    ((outside 0 0).after cs).opened ≤ 1 := by
  cases h with
  | element hbefore hvalue hafter =>
    rw [after_append, after_of_isPlain (isPlain_of_isBlanks hbefore), after_append,
      after_of_value hvalue, after_of_isPlain (isPlain_of_isBlanks hafter)]
    unfold outside
    split <;> simp

/-- Two values with brackets, one after the other, are no JSON text. -/
theorem not_isText_append {cs ds between after : List Char} (hcs : Derives .value cs)
    (hds : Derives .value ds) (hcs' : cs.head?.any isOpening) (hds' : ds.head?.any isOpening)
    (hbetween : IsBlanks between) (hafter : IsBlanks after) :
    ¬ IsText (cs ++ (between ++ (ds ++ after))) := by
  intro h
  have hopened := opened_of_isText h
  rw [after_append, after_of_value hcs, if_pos hcs', after_append,
    after_of_isPlain (isPlain_of_isBlanks hbetween), after_append, after_of_value hds, if_pos hds',
    after_of_isPlain (isPlain_of_isBlanks hafter)] at hopened
  simp [outside] at hopened

end PlanCourier.Json

import PlanCourier.Solve.View
import PlanCourier.Text.Cut

/-!
# What the text of a plan view tells

Nothing is escaped in the text of a plan view: names of steps and the planner's output stand in it
as they are, so a name may look like a heading, a number or the start of the output. The text is told
apart by its lines all the same. The first line says how many steps there are; the lines of as many
steps follow, one for each, and whatever is left is output.

Main statements:

- `splitOn_intercalate_eq_flatMap`: the lines of a text that is put together from texts;
- `splitOn_text`: the lines of a plan view;
- `heading_inj` and `numbered_inj`: what its first line and the lines of its steps tell;
- `plan_text_eq_iff`: two plan views have one text just when they show the same.
-/

namespace PlanCourier

namespace Text

theorem append_mark_inj {mark : Char} {a b x y : List Char} (ha : mark ∉ a) (hb : mark ∉ b)
    (h : a ++ mark :: x = b ++ mark :: y) : a = b ∧ x = y := by
  have hfirst : cut mark (a ++ mark :: x) = some (a, x) := cut_eq_some_iff.2 ⟨rfl, ha⟩
  have hsecond : cut mark (a ++ mark :: x) = some (b, y) := cut_eq_some_iff.2 ⟨h, hb⟩
  exact Prod.mk.inj (Option.some.inj (hfirst.symm.trans hsecond))

theorem not_mem_natural {c : Char} (h : c.isDigit = false) (n : Nat) : c ∉ natural n := by
  intro hc
  have hdigit := natural_digits hc
  rw [h] at hdigit
  cases hdigit

/-- The lines of a text that is put together from texts are their lines. -/
theorem splitOn_intercalate_eq_flatMap {mark : Char} (part : List Char) (parts : List (List Char)) :
    ([mark].intercalate (part :: parts)).splitOn mark =
      (part :: parts).flatMap (List.splitOn mark) := by
  induction parts generalizing part with
  | nil => simp [List.intercalate]
  | cons next rest ih =>
    have hsplit : ([mark].intercalate (part :: next :: rest)).splitOn mark =
        part.splitOn mark ++ ([mark].intercalate (next :: rest)).splitOn mark := by
      rw [List.intercalate_cons_cons, List.append_assoc]
      exact List.splitOnP_append_cons _ _ (beq_self_eq_true mark)
    rw [hsplit, ih]
    rfl

theorem flatMap_splitOn_eq_self {mark : Char} {parts : List (List Char)}
    (h : ∀ part ∈ parts, mark ∉ part) : parts.flatMap (List.splitOn mark) = parts := by
  induction parts with
  | nil => rfl
  | cons part rest ih =>
    obtain ⟨hpart, hrest⟩ := List.forall_mem_cons.1 h
    rw [List.flatMap_cons, List.splitOn_eq_singleton hpart, ih hrest]
    rfl

end Text

namespace View

open PlanCourier.Text

variable {steps steps' : List String}

/-- What is shown of an output: nothing if it is white space only, else all of it but the white
space at its end. -/
def shownOutput : Option String → Option String
  | none => none
  | some o => if isAllBlank o then none else some (trimmedEnd o)

theorem outputLines_eq (output : Option String) :
    outputLines output = match shownOutput output with
      | none => []
      | some shown => ["", "Planner output:", shown] := by
  cases output with
  | none => rfl
  | some o =>
    cases hblank : isAllBlank o <;> simp [outputLines, shownOutput, hblank]

def heading (index total steps : Nat) : List Char :=
  "Plan ".toList ++ (natural index ++ '/' :: (natural total ++ ' ' :: ('(' :: natural steps ++
    " steps)".toList)))

/-- The last lines of a plan view. -/
def outputRows (output : Option String) : List (List Char) :=
  (outputLines output).flatMap fun line => line.toList.splitOn '\n'

theorem heading_inj {index index' total total' n n' : Nat}
    (h : heading index total n = heading index' total' n') :
    index = index' ∧ total = total' ∧ n = n' := by
  have hslash := not_mem_natural (rfl : '/'.isDigit = false)
  have hspace := not_mem_natural (rfl : ' '.isDigit = false)
  obtain ⟨hindex, htotals⟩ := append_mark_inj (hslash index) (hslash index')
    (List.append_cancel_left h)
  obtain ⟨htotal, hcounts⟩ := append_mark_inj (hspace total) (hspace total') htotals
  have hcount := List.append_cancel_right (List.cons.inj hcounts).2
  exact ⟨natural_inj.1 hindex, natural_inj.1 htotal, natural_inj.1 hcount⟩

theorem length_numbered (number : Nat) (steps : List String) :
    (numbered number steps).length = steps.length := by
  induction steps generalizing number with
  | nil => rfl
  | cons s rest ih => simp [numbered, ih]

theorem numbered_inj {number : Nat} (h : numbered number steps = numbered number steps') :
    steps = steps' := by
  induction steps generalizing number steps' with
  | nil =>
    cases steps' with
    | nil => rfl
    | cons s' rest' => cases h
  | cons s rest ih =>
    cases steps' with
    | nil => cases h
    | cons s' rest' =>
      obtain ⟨hfirst, hrest⟩ := List.cons.inj h
      rw [(String.append_right_inj _).1 hfirst, ih hrest]

theorem not_mem_numbered (hsteps : ∀ s ∈ steps, '\n' ∉ s.toList) (number : Nat) :
    ∀ line ∈ numbered number steps, '\n' ∉ line.toList := by
  induction steps generalizing number with
  | nil => simp [numbered]
  | cons s rest ih =>
    obtain ⟨hs, hrest⟩ := List.forall_mem_cons.1 hsteps
    refine List.forall_mem_cons.2 ⟨?_, ih hrest (number + 1)⟩
    have hnumber := not_mem_natural (rfl : '\n'.isDigit = false) number
    simp [naturalText, hnumber, hs]

theorem outputRows_inj {output output' : Option String}
    (h : outputRows output = outputRows output') : shownOutput output = shownOutput output' := by
  unfold outputRows at h
  rw [outputLines_eq, outputLines_eq] at h
  cases hshown : shownOutput output with
  | none =>
    cases hshown' : shownOutput output' with
    | none => rfl
    | some shown' => simp [hshown, hshown'] at h
  | some shown =>
    cases hshown' : shownOutput output' with
    | none => simp [hshown, hshown'] at h
    | some shown' =>
      have hrows : shown.toList.splitOn '\n' = shown'.toList.splitOn '\n' := by
        simpa [hshown, hshown'] using h
      have hchars := congrArg (List.intercalate ['\n']) hrows
      rw [List.intercalate_splitOn, List.intercalate_splitOn] at hchars
      rw [String.toList_inj.1 hchars]

/-- The lines of a plan view: its heading, the lines of its steps, and those of its output. -/
theorem splitOn_text (index total : Nat) (hsteps : ∀ s ∈ steps, '\n' ∉ s.toList)
    (output : Option String) :
    (text (.plan index total steps output)).toList.splitOn '\n' =
      heading index total steps.length ::
        ((numbered 1 steps).map String.toList ++ outputRows output) := by
  have hheading : '\n' ∉ heading index total steps.length := by
    have hnumber := not_mem_natural (rfl : '\n'.isDigit = false)
    simp [heading, hnumber]
  have hnumbered : ((numbered 1 steps).map String.toList).flatMap (List.splitOn '\n') =
      (numbered 1 steps).map String.toList := by
    apply flatMap_splitOn_eq_self
    simpa using not_mem_numbered hsteps 1
  have hfirst : ("Plan " ++ naturalText index ++ "/" ++ naturalText total ++ " (" ++
      naturalText steps.length ++ " steps)").toList = heading index total steps.length := by
    simp [heading, naturalText]
  unfold text
  dsimp only
  rw [String.toList_intercalate, List.map_cons, hfirst, List.map_append,
    show "\n".toList = ['\n'] from rfl, splitOn_intercalate_eq_flatMap, List.flatMap_cons,
    List.flatMap_append, hnumbered, List.splitOn_eq_singleton hheading, List.flatMap_map]
  rfl

/-- Two plan views have one text just when they are the same view in the count of plans, have the
same steps and show the same output. Where no name of a step goes over several lines, it makes no
difference what the names and the outputs look like. -/
theorem plan_text_eq_iff {index index' total total' : Nat} {output output' : Option String}
    (hsteps : ∀ s ∈ steps, '\n' ∉ s.toList) (hsteps' : ∀ s ∈ steps', '\n' ∉ s.toList) :
    (plan index total steps output).text = (plan index' total' steps' output').text ↔
      index = index' ∧ total = total' ∧ steps = steps' ∧
        shownOutput output = shownOutput output' := by
  constructor
  · intro htext
    have hlines := congrArg (fun t : String => t.toList.splitOn '\n') htext
    rw [splitOn_text _ _ hsteps, splitOn_text _ _ hsteps'] at hlines
    obtain ⟨hheading, hrest⟩ := List.cons.inj hlines
    obtain ⟨hindex, htotal, hcount⟩ := heading_inj hheading
    -- there are as many numbered lines in both, so the outputs start at the same line
    have hlength : ((numbered 1 steps).map String.toList).length =
        ((numbered 1 steps').map String.toList).length := by
      simp [length_numbered, hcount]
    obtain ⟨hnumbered, houtput⟩ := List.append_inj hrest hlength
    have hnames := (List.map_inj_right fun _ _ => String.toList_inj.1).1 hnumbered
    exact ⟨hindex, htotal, numbered_inj hnames, outputRows_inj houtput⟩
  · rintro ⟨rfl, rfl, rfl, houtput⟩
    rw [text, text, outputLines_eq, outputLines_eq, houtput]

/-- Names that look like a numbered line, a blank line and the heading of the output do not pass for
an output, nor an output for them; only one of white space is none. -/
theorem names_like_headings :
    let names := ["  1. board", "", "Planner output:"]
    let shown (output : Option String) := (plan 1 1 names output).text
    (∀ s ∈ names, '\n' ∉ s.toList) ∧ shown (some "Planner output:") ≠ shown none ∧
      shown (some "\u2003\n") = shown none := by
  intro names shown
  have hnames : ∀ s ∈ names, '\n' ∉ s.toList := by decide
  refine ⟨hnames, fun h => ?_, (plan_text_eq_iff hnames hnames).2 ⟨rfl, rfl, rfl, by decide⟩⟩
  have hshown := ((plan_text_eq_iff hnames hnames).1 h).2.2.2
  revert hshown
  decide

end View

end PlanCourier

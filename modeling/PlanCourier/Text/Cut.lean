import PlanCourier.Text.Blank

/-!
# Cutting a text in two

A text is cut at the first occurrence of a character, which belongs to neither part.

Main statements:

- `cut_eq_some_iff`: what a text is cut into, and where;
- `cut_eq_none_iff`: a text that does not hold the character is not cut.
-/

namespace PlanCourier.Text

/-- The text before the first `mark`, and the text after it. -/
def cut (mark : Char) : List Char → Option (List Char × List Char)
  | [] => none
  | c :: rest =>
    if c = mark then some ([], rest) else (cut mark rest).map fun (a, b) => (c :: a, b)

theorem cut_eq_none_iff {mark : Char} {cs : List Char} : cut mark cs = none ↔ mark ∉ cs := by
  induction cs with
  | nil => simp [cut]
  | cons c rest ih =>
    by_cases h : c = mark
    · simp [cut, h]
    · simp [cut, h, ih, Ne.symm h]

theorem cut_eq_some_iff {mark : Char} {cs a b : List Char} :
    cut mark cs = some (a, b) ↔ cs = a ++ mark :: b ∧ mark ∉ a := by
  induction cs generalizing a with
  | nil => simp [cut]
  | cons c rest ih =>
    by_cases h : c = mark
    · subst h
      cases a with
      | nil => simp [cut]
      | cons d a => simp only [cut, if_true]; simp; grind
    · cases a with
      | nil => simp [cut, h]
      | cons d a => simp [cut, h, ih]; grind

end PlanCourier.Text

import PlanCourier.Text.CodePoints

/-!
# Letters of joined writing

The letters that join the letter after them, and those that join the letter before them. Only
characters that names of hosts hold are told apart.
-/

namespace PlanCourier.Text.Property

/-- The code points of letters that join the letter after them. -/
def joinsAfter : CodePoints := ⟨[
  1568, 1, 5, 1, 1, 1, 1, 5, 4, 13, 1, 7, 1, 2, 35, 2, 9, 15, 18, 38, 1, 2, 9, 1, 1, 1, 1, 2, 40,
  3, 2, 1, 18, 3, 5, 4, 1, 9, 1, 1, 1, 1, 1, 2, 31, 11, 3, 15, 2, 4, 1, 1, 2, 3, 2, 6, 74, 33,
  86, 5, 2, 1, 1, 10, 1, 1, 10, 1, 1, 4, 2, 1, 29, 1, 2, 5, 1, 1, 16, 10, 5, 2, 2, 6, 1, 15,
  3902, 1, 24, 89, 14, 34, 1, 1, 36757, 51, 25165, 5, 8, 1, 5, 10, 1, 3, 10, 4, 145, 1, 1, 1, 3,
  3, 1, 2, 1, 1, 2, 1, 28, 2, 337, 34, 1, 1, 415, 2, 1, 2, 104, 3, 1, 17, 12, 3, 28, 4, 2, 12,
  46, 1, 1, 2, 4, 1, 2, 2, 1, 2, 1, 1, 2, 1, 5, 2, 55638, 34]⟩

/-- The code points of letters that join the letter before them. -/
def joinsBefore : CodePoints := ⟨[
  1568, 1, 1, 30, 1, 10, 35, 2, 1, 3, 5, 91, 1, 1, 24, 2, 10, 3, 2, 1, 16, 1, 1, 30, 29, 51, 74,
  33, 85, 25, 7, 1, 1, 4, 1, 28, 3, 1, 2, 7, 16, 13, 1, 27, 3902, 1, 24, 89, 14, 34, 1, 1, 36757,
  50, 25166, 6, 1, 1, 1, 2, 3, 9, 1, 10, 2, 1, 6, 5, 144, 18, 23, 6, 338, 35, 414, 3, 1, 2, 104,
  21, 12, 4, 27, 18, 46, 1, 1, 5, 1, 8, 1, 4, 4, 2, 55639, 34]⟩

end PlanCourier.Text.Property

import PlanCourier.Text.CodePoints

/-!
# Emoji

The characters that are shown as emoji by themselves, those that a variation selector turns into
emoji or into text, and those that take a skin tone.
-/

namespace PlanCourier.Text.Property

/-- The code points that are shown as emoji by themselves, without skin tones and flag letters. -/
def emojiPresentation : CodePoints := ⟨[
  8986, 2, 205, 4, 3, 1, 2, 1, 521, 2, 21, 2, 50, 12, 43, 1, 19, 1, 13, 1, 8, 2, 17, 2, 5, 2, 8,
  1, 5, 1, 21, 1, 7, 2, 1, 1, 4, 1, 2, 1, 7, 1, 4, 2, 28, 1, 35, 1, 1, 1, 4, 3, 1, 1, 61, 3, 24,
  1, 14, 1, 859, 2, 51, 1, 4, 1, 115886, 1, 202, 1, 190, 1, 2, 10, 102, 1, 24, 1, 20, 1, 2, 5, 1,
  3, 21, 2, 174, 33, 12, 9, 1, 70, 1, 22, 12, 43, 4, 5, 12, 17, 3, 1, 3, 3, 5, 63, 1, 1, 1, 187,
  2, 63, 13, 4, 1, 24, 18, 1, 26, 2, 13, 1, 86, 85, 48, 70, 6, 1, 3, 3, 2, 5, 2, 4, 11, 2, 7, 9,
  227, 12, 4, 1, 283, 47, 1, 10, 1, 185, 112, 13, 3, 71, 1, 1, 3, 18, 1, 13, 3, 12]⟩

/-- The code points that a variation selector can turn into an emoji. -/
def emojiStyled : CodePoints := ⟨[
  35, 1, 6, 1, 5, 10, 111, 1, 4, 1, 8077, 1, 12, 1, 216, 1, 22, 1, 90, 6, 15, 2, 367, 2, 12, 1,
  166, 1, 25, 11, 4, 3, 199, 1, 231, 2, 10, 1, 9, 1, 58, 4, 1, 5, 9, 1, 2, 1, 2, 2, 2, 1, 4, 1,
  2, 1, 1, 2, 2, 1, 3, 1, 3, 2, 8, 3, 5, 1, 1, 1, 5, 12, 11, 2, 2, 1, 1, 2, 1, 1, 18, 1, 2, 2,
  18, 6, 1, 1, 1, 2, 3, 2, 5, 1, 2, 2, 4, 2, 11, 2, 5, 2, 2, 1, 5, 2, 1, 1, 1, 2, 20, 2, 5, 6, 1,
  4, 2, 1, 4, 1, 2, 1, 2, 6, 1, 1, 2, 1, 1, 1, 1, 1, 6, 1, 3, 1, 6, 1, 10, 2, 15, 1, 2, 1, 4, 1,
  1, 1, 4, 3, 1, 1, 11, 2, 48, 3, 9, 1, 14, 1, 14, 1, 372, 2, 463, 3, 19, 2, 51, 1, 4, 1, 1242,
  1, 12, 1, 601, 1, 1, 1, 114026, 1, 363, 2, 12, 2, 130, 1, 23, 1, 20, 1, 7, 1, 213, 3, 5, 1, 6,
  1, 4, 1, 2, 9, 9, 1, 65, 1, 4, 1, 21, 1, 2, 2, 1, 3, 2, 2, 7, 1, 4, 3, 19, 1, 1, 1, 1, 1, 3, 5,
  5, 13, 12, 1, 5, 1, 1, 1, 1, 1, 16, 1, 12, 1, 9, 1, 6, 1, 24, 1, 1, 2, 3, 4, 3, 2, 4, 1, 22, 1,
  18, 1, 37, 1, 12, 1, 2, 1, 7, 1, 3, 1, 11, 1, 14, 1, 4, 1, 4, 3, 3, 4, 9, 1, 1, 3, 1, 1, 10, 1,
  4, 1, 4, 2, 53, 2, 5, 24, 7, 2, 2, 7, 13, 1, 2, 4, 2, 1, 20, 1, 2, 1, 8, 2, 9, 1, 5, 3, 12, 3,
  8, 3, 2, 1, 1, 1, 4, 1, 6, 1, 3, 1, 6, 1, 21, 1, 118, 1, 5, 1, 3, 1, 2, 1, 3, 1, 20, 1, 4, 1,
  6, 2, 1, 1, 14, 1, 1, 3, 16, 6, 3, 1, 6, 1, 2, 1]⟩

/-- The code points shown as emoji by themselves that a variation selector turns into text of one
column. -/
def textStyled : CodePoints := ⟨[
  8986, 2, 205, 4, 3, 1, 2, 1, 521, 2, 21, 2, 50, 12, 43, 1, 19, 1, 13, 1, 8, 2, 17, 2, 5, 2, 8,
  1, 5, 1, 21, 1, 7, 2, 1, 1, 4, 1, 2, 1, 7, 1, 4, 2, 28, 1, 35, 1, 1, 1, 4, 3, 1, 1, 61, 3, 24,
  1, 14, 1, 859, 2, 51, 1, 4, 1, 115886, 1, 776, 3, 5, 1, 6, 1, 91, 1, 26, 1, 19, 1, 4, 3, 19, 1,
  1, 1, 1, 1, 3, 1, 21, 1, 12, 1, 26, 1, 12, 1, 9, 1, 6, 1, 27, 1, 3, 4, 3, 2, 4, 1, 22, 1, 18,
  1, 37, 1, 12, 1, 2, 1, 7, 1, 3, 1, 11, 1, 14, 1, 4, 1, 4, 3, 3, 4, 9, 1, 1, 3, 12, 1, 4, 1, 4,
  2, 60, 24, 168, 1, 118, 1, 5, 1, 3, 1, 2, 1, 3, 1, 20, 1, 4, 1, 6, 2, 1, 1]⟩

def emojiModifierBase : CodePoints := ⟨[
  9757, 1, 219, 1, 16, 4, 117879, 1, 60, 3, 2, 1, 2, 3, 117, 2, 2, 11, 21, 19, 3, 1, 4, 3, 1, 3,
  7, 1, 1, 1, 24, 1, 201, 2, 4, 1, 21, 1, 4, 2, 174, 3, 3, 5, 83, 1, 16, 3, 9, 1, 11, 1, 575, 1,
  2, 1, 8, 8, 6, 1, 9, 10, 2, 3, 56, 1, 61, 2, 1, 2, 1, 1, 17, 3, 1, 13, 229, 3, 42, 11]⟩

end PlanCourier.Text.Property

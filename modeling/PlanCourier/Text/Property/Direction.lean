import PlanCourier.Text.CodePoints

/-!
# The direction of writing

The characters that are written from right to left, the digits, and the characters that take the
direction of what they stand beside. All others are written from left to right. Only characters
that names of hosts hold are told apart.
-/

namespace PlanCourier.Text.Property

def rightToLeft : CodePoints := ⟨[
  1470, 1, 1, 1, 2, 1, 2, 1, 9, 37, 19, 1, 2, 1, 1, 1, 13, 48, 34, 3, 1, 101, 15, 2, 7, 2, 10,
  23, 1, 30, 29, 89, 11, 58, 9, 2, 4, 1, 3, 24, 4, 1, 9, 1, 3, 1, 7, 41, 5, 50, 16, 42, 62184,
  33, 445, 63, 164, 1, 2444, 284, 4, 225, 15, 38, 10, 165, 6, 75, 10, 484, 38, 6, 31, 33, 240,
  42, 3, 44, 39, 70, 11, 49, 4, 113, 55305, 208, 82, 34, 7, 1011]⟩

def arabicDigit : CodePoints := ⟨[
  1632, 10, 1, 2, 67267, 26, 278, 31]⟩

def europeanDigit : CodePoints := ⟨[
  48, 10, 1718, 10, 64487, 27]⟩

/-- The code points of marks without room that count as letters written from left to right. -/
def leftMark : CodePoints := ⟨[
  3263, 1, 6, 1, 68928, 2, 566, 1]⟩

/-- The code points that have no direction of their own. -/
def neutral : CodePoints := ⟨[
  0, 9, 5, 14, 5, 15, 10, 7, 26, 6, 26, 93, 31, 1, 449, 2, 7, 14, 2, 28, 1, 17, 117, 1, 128, 1,
  403, 6, 118, 2, 1, 2, 1, 1, 1, 2, 90, 1, 115, 1, 10, 1, 268, 4, 504, 2, 7, 1, 245, 1, 257, 8,
  125, 7, 448, 1, 250, 4, 1106, 10, 102, 1, 666, 2, 318, 1, 20, 27, 309, 6, 152, 34, 1548, 182,
  66, 74, 60, 428, 69, 26, 1, 790, 1, 339, 256, 768, 229, 6, 14, 7, 256, 517, 3, 25, 15, 1, 6, 1,
  5, 3, 96, 1, 90, 1, 196, 38, 7130, 64, 22160, 55, 326, 3, 99, 1, 10, 2, 128, 34, 102, 1, 159,
  4, 12, 2, 58, 4, 754, 2, 20946, 18, 127, 49, 69, 2, 698, 1, 62, 77, 3, 17, 1918, 1, 537, 7,
  558, 1, 739, 20, 1530, 13, 2408, 29, 20464, 1, 23581, 721, 792, 89, 3, 1, 186, 87, 4008, 1,
  3056, 576, 61, 3, 61, 1, 178, 2448]⟩

end PlanCourier.Text.Property

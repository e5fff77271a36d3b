import PlanCourier.Text.Digits

/-!
# Listings of characters

A table that gives characters for code points is written as a text, in words with white space
between them and with all numbers to base 16. A number with `=` says which code point the next word
is for; each further word is for the next code point. The characters that a word gives have commas
between them.
-/

namespace PlanCourier.Text

/-- The character of a number to base 16; a text that is none gives the character zero. -/
def hexChar (cs : List Char) : Char := Char.ofNat ((digitsIn 16 cs).getD 0)

/-- The entries that words make, where the first word is for this code point unless it says which
one the next word is for. -/
def entries (place : Nat) : List (List Char) → List (Nat × List Char)
  | [] => []
  | word :: rest =>
    if word.getLast? = some '=' then entries ((digitsIn 16 word.dropLast).getD 0) rest
    else (place, (word.splitOnP (· == ',')).map hexChar) :: entries (place + 1) rest

def listing (s : String) : List (Nat × List Char) :=
  entries 0 ((s.toList.splitOnP fun c => c == ' ' || c == '\n').filter (!·.isEmpty))

end PlanCourier.Text

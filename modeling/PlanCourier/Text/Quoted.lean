import PlanCourier.Text.Property.Extending
import PlanCourier.Text.Property.Unprintable

/-!
# Texts quoted for a reader

A text in double quotes, in which nothing is invisible: the usual escapes for a tab, the line
breaks, NUL, the quote and the backslash, and the number of the code point for every character
that has no printed form of its own or combines with the one before it.
-/

namespace PlanCourier.Text

def numbered (c : Char) : List Char :=
  ['\\', 'u', '\x7b'] ++ Nat.toDigits 16 c.toNat ++ ['\x7d']

/-- How one character is written between the quotes. -/
def quotedChar (c : Char) : List Char :=
  match c with
  | '\x00' => ['\\', '0']
  | '\t' => ['\\', 't']
  | '\r' => ['\\', 'r']
  | '\n' => ['\\', 'n']
  | '"' => ['\\', '"']
  | '\\' => ['\\', '\\']
  | c =>
    if 0x20 ≤ c.toNat && c.toNat < 0x7F then [c]
    else if Property.extending.has c || Property.unprintable.has c then numbered c
    else [c]

def quoted (s : String) : String :=
  String.ofList ('"' :: (s.toList.flatMap quotedChar ++ ['"']))

end PlanCourier.Text

import PlanCourier.Json.Basic
import PlanCourier.Real.Layout

/-!
# JSON values as text

Two ways to write a value: `compact`, without any space, and `pretty`, with every item and every
member on a line of its own, indented by two spaces for each level. Only the quote, the backslash
and the characters below the space are escaped in strings.

Main statement: `escape_plain`, any other character stands for itself.
-/

namespace PlanCourier.Json

open PlanCourier.Text PlanCourier.Real

/-- How one character is written inside a string. -/
def escape (c : Char) : List Char :=
  match c with
  | '"' => ['\\', '"']
  | '\\' => ['\\', '\\']
  | '\x08' => ['\\', 'b']
  | '\x0c' => ['\\', 'f']
  | '\n' => ['\\', 'n']
  | '\r' => ['\\', 'r']
  | '\t' => ['\\', 't']
  | c =>
    if c.toNat < 0x20 then
      ['\\', 'u', '0', '0', Nat.digitChar (c.toNat / 16), Nat.digitChar (c.toNat % 16)]
    else [c]

def printString (s : String) : List Char := '"' :: (s.toList.flatMap escape ++ ['"'])

/-- A number; a real one in the shortest form that reads back. -/
def printNumber : Number → List Char
  | .whole i => integer i
  | .real x => Layout.json.render x

mutual

def compact : Json → List Char
  | .null => "null".toList
  | .bool true => "true".toList
  | .bool false => "false".toList
  | .number n => printNumber n
  | .text s => printString s
  | .list [] => ['[', ']']
  | .list (v :: rest) => '[' :: (compact v ++ compactItems rest)
  | .object [] => ['\x7b', '\x7d']
  | .object ((k, v) :: rest) =>
    '\x7b' :: (printString k ++ ':' :: (compact v ++ compactMembers rest))

/-- The items after the first one, and the end of the list. -/
def compactItems : List Json → List Char
  | [] => [']']
  | v :: rest => ',' :: (compact v ++ compactItems rest)

/-- The members after the first one, and the end of the object. -/
def compactMembers : List (String × Json) → List Char
  | [] => ['\x7d']
  | (k, v) :: rest => ',' :: (printString k ++ ':' :: (compact v ++ compactMembers rest))

end

def newLine (level : Nat) : List Char := '\n' :: List.replicate (2 * level) ' '

mutual

/-- The value over several lines; its own first line stands at `level`. -/
def prettyAt (level : Nat) : Json → List Char
  | .null => "null".toList
  | .bool true => "true".toList
  | .bool false => "false".toList
  | .number n => printNumber n
  | .text s => printString s
  | .list [] => ['[', ']']
  | .list (v :: rest) =>
    '[' :: (newLine (level + 1) ++ prettyAt (level + 1) v ++ prettyItems level rest)
  | .object [] => ['\x7b', '\x7d']
  | .object ((k, v) :: rest) =>
    '\x7b' :: (newLine (level + 1) ++ printString k ++ ':' :: ' ' :: prettyAt (level + 1) v ++
      prettyMembers level rest)

/-- The items after the first one, and the end of the list. -/
def prettyItems (level : Nat) : List Json → List Char
  | [] => newLine level ++ [']']
  | v :: rest => ',' :: (newLine (level + 1) ++ prettyAt (level + 1) v ++ prettyItems level rest)

/-- The members after the first one, and the end of the object. -/
def prettyMembers (level : Nat) : List (String × Json) → List Char
  | [] => newLine level ++ ['\x7d']
  | (k, v) :: rest =>
    ',' :: (newLine (level + 1) ++ printString k ++ ':' :: ' ' :: prettyAt (level + 1) v ++
      prettyMembers level rest)

end

def pretty (v : Json) : List Char := prettyAt 0 v

def compactText (v : Json) : String := String.ofList (compact v)

def prettyText (v : Json) : String := String.ofList (pretty v)

theorem escape_plain {c : Char} (h : 0x20 ≤ c.toNat) (hq : c ≠ '"') (hb : c ≠ '\\') :
    escape c = [c] := by
  have hn : ¬ c.toNat < 0x20 := by omega
  unfold escape
  split
  · exact absurd rfl hq
  · exact absurd rfl hb
  · exact absurd (by decide) hn
  · exact absurd (by decide) hn
  · exact absurd (by decide) hn
  · exact absurd (by decide) hn
  · exact absurd (by decide) hn
  · rw [if_neg hn]

end PlanCourier.Json

/-!
# White space, and the lines of a text

Which characters are white space (the Unicode property `White_Space`), how a text is trimmed of
them, and how it falls into lines.

Main statements:

- `trimStart_of_head`: a text that starts with something shown is not trimmed at its start;
- `isBlank_of_isWhitespace`: every character the language calls white space is white space here.
-/

namespace PlanCourier.Text

/-- White space: the tabs and line breaks, the space, the no-break and typographic spaces, and the
two Unicode separators of lines and paragraphs. -/
def isBlank (c : Char) : Bool :=
  let n := c.toNat
  (0x09 ≤ n && n ≤ 0x0D) || n == 0x20 || n == 0x85 || n == 0xA0 || n == 0x1680 ||
    (0x2000 ≤ n && n ≤ 0x200A) || n == 0x2028 || n == 0x2029 || n == 0x202F || n == 0x205F ||
    n == 0x3000

theorem isBlank_of_isWhitespace {c : Char} (h : c.isWhitespace = true) : isBlank c = true := by
  simp only [Char.isWhitespace, Bool.or_eq_true, decide_eq_true_eq] at h
  rcases h with ((rfl | rfl) | rfl) | rfl <;> decide

def trimStart (cs : List Char) : List Char := cs.dropWhile isBlank

def dropEndWhile {α : Type} (p : α → Bool) (cs : List α) : List α :=
  (cs.reverse.dropWhile p).reverse

theorem dropEndWhile_append_cons {α : Type} {p : α → Bool} {c : α} (before after : List α)
    (h : p c = false) :
    dropEndWhile p (before ++ c :: after) = before ++ c :: dropEndWhile p after := by
  simp only [dropEndWhile, List.reverse_append, List.reverse_cons, List.append_assoc,
    List.singleton_append, List.dropWhile_append]
  split
  next he => simp [List.isEmpty_iff.1 he, h]
  next => simp

def trimEnd (cs : List Char) : List Char := dropEndWhile isBlank cs

def trim (cs : List Char) : List Char := trimEnd (trimStart cs)

/-- Whether nothing of the text shows. -/
def allBlank (cs : List Char) : Bool := cs.all isBlank

theorem trimStart_of_head {c : Char} {cs : List Char} (h : isBlank c = false) :
    trimStart (c :: cs) = c :: cs := by
  simp [trimStart, h]

/-- The line without the carriage return that may close it. -/
def dropReturn (line : List Char) : List Char :=
  match line.reverse with
  | '\r' :: rest => rest.reverse
  | _ => line

/-- The lines that end in a line feed, without their ends, and what follows the last line feed. -/
def splitFeeds : List Char → List (List Char) × List Char
  | [] => ([], [])
  | '\n' :: rest => let (ls, last) := splitFeeds rest; ([] :: ls, last)
  | c :: rest =>
    match splitFeeds rest with
    | ([], last) => ([], c :: last)
    | (l :: ls, last) => ((c :: l) :: ls, last)

/-- The lines of a text: a line ends at a line feed, which a carriage return may precede; what
follows the last line feed is a line if it is not empty. -/
def lines (cs : List Char) : List (List Char) :=
  match splitFeeds cs with
  | (ls, []) => ls.map dropReturn
  | (ls, last) => ls.map dropReturn ++ [last]

/-- The text without the characters of class `p` at its end. -/
def dropRight (p : Char → Bool) (s : String) : String := String.ofList (dropEndWhile p s.toList)

def trimmed (s : String) : String := String.ofList (trim s.toList)

def trimmedEnd (s : String) : String := String.ofList (trimEnd s.toList)

/-- Whether nothing of the string shows. -/
def isAllBlank (s : String) : Bool := allBlank s.toList

end PlanCourier.Text

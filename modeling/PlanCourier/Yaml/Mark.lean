/-!
# Characters with their places

The layout of a YAML text carries meaning: the column of a character tells which block collection
it belongs to, and a name has to stand in one line near its colon. So a text is read as a list of
marks, each of them a character with its place.
-/

namespace PlanCourier.Yaml

/-- A character with the number of characters before it and its line and column. Every end of a
line but the line and the paragraph separator has the character of a line feed. -/
structure Mark where
  char : Char
  index : Nat
  line : Nat
  column : Nat
  deriving DecidableEq, Repr

def isAllowed (c : Char) : Bool :=
  c == '\t' || c == '\n' || c == '\r' || (' ' ≤ c && c ≤ '~') || c == '\u0085' ||
    ('\u00a0' ≤ c && c ≤ '\ufffd') || '\uffff' < c

def isBreak (c : Char) : Bool := c == '\n' || c == '\u2028' || c == '\u2029'

def isBlank (c : Char) : Bool := c == ' ' || c == '\t'

def isWhite (c : Char) : Bool := isBlank c || isBreak c

/-- The characters of a text from this place on, with their places. A carriage return and a line
feed are one end of a line. -/
def marksFrom (index line column : Nat) : List Char → List Mark
  | [] => []
  | '\r' :: '\n' :: rest => ⟨'\n', index, line, column⟩ :: marksFrom (index + 2) (line + 1) 0 rest
  | c :: rest =>
    if c == '\r' || c == '\n' || c == '\u0085' then
      ⟨'\n', index, line, column⟩ :: marksFrom (index + 1) (line + 1) 0 rest
    else if isBreak c then ⟨c, index, line, column⟩ :: marksFrom (index + 1) (line + 1) 0 rest
    else ⟨c, index, line, column⟩ :: marksFrom (index + 1) line (column + 1) rest

/-- The marks of a text, if all of its characters may stand in one. A byte order mark at the start
is none of them. -/
def marks? (s : String) : Option (List Mark) :=
  let cs := match s.toList with
    | '\ufeff' :: rest => rest
    | cs => cs
  if cs.all isAllowed then some (marksFrom 0 0 0 cs) else none

/-- Whether nothing, a blank or the end of a line comes next. -/
def isClear : List Mark → Bool
  | [] => true
  | m :: _ => isWhite m.char

def startsWith (c : Char) : List Mark → Bool
  | [] => false
  | m :: _ => m.char == c

/-- Whether three of these characters alone start a line here. -/
def isRule (c : Char) : List Mark → Bool
  | x :: y :: z :: rest =>
    x.column == 0 && x.char == c && y.char == c && z.char == c && isClear rest
  | _ => false

def isBoundary (ms : List Mark) : Bool := isRule '-' ms || isRule '.' ms

def skipBlanks (ms : List Mark) : List Mark := ms.dropWhile fun m => isBlank m.char

/-- What stands after the rest of a line, its end included; none if more than blanks and a comment
is left of it. -/
def restOfLine? (ms : List Mark) : Option (List Mark) :=
  let ms := skipBlanks ms
  let ms := if startsWith '#' ms then ms.dropWhile fun m => !isBreak m.char else ms
  match ms with
  | [] => some []
  | m :: rest => if isBreak m.char then some rest else none

end PlanCourier.Yaml

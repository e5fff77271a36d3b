import PlanCourier.Text.Width

/-!
# Tables as text

A table is drawn with a frame around it, a double line below its header and dotted lines between
its rows. A cell may have several lines; every column is as wide as its widest line, with a blank
on either side.

Main statement: `width_padded`, a cell that is not wider than its column fills it.
-/

namespace PlanCourier.Text

/-- A header and rows of as many cells. -/
structure Table where
  header : List String
  rows : List (List String)
  deriving DecidableEq, Repr

namespace Table

def cellLines (cell : String) : List (List Char) := cell.toList.splitOnP (· == '\n')

def cellWidth (cell : String) : Nat :=
  ((cellLines cell).map fun line => (width line).toNat).foldr max 0

def greater : List Nat → List Nat → List Nat
  | [], bs => bs
  | as, [] => as
  | a :: as, b :: bs => max a b :: greater as bs

def widths (t : Table) : List Nat :=
  ((t.header :: t.rows).map fun row => row.map cellWidth).foldr greater []

/-- A line of a cell with blanks up to the width of the column and one on either side. -/
def padded (w : Nat) (line : List Char) : List Char :=
  ' ' :: (line ++ List.replicate ((w - width line).toNat + 1) ' ')

def textLine (ws : List Nat) (parts : List (List Char)) : List Char :=
  '│' :: (['┆'].intercalate (List.zipWith padded ws parts) ++ ['│'])

/-- The lines of a row, as many as its highest cell has. -/
def rowLines (ws : List Nat) (row : List String) : List (List Char) :=
  let cells := row.map cellLines
  let height := (cells.map List.length).foldr max 0
  (List.range height).map fun i => textLine ws (cells.map fun ls => ls[i]?.getD [])

/-- The characters of a horizontal line. -/
structure Rule where
  left : Char
  fill : Char
  cross : Char
  right : Char

def topRule : Rule := ⟨'┌', '─', '┬', '┐'⟩

def headerRule : Rule := ⟨'╞', '═', '╪', '╡'⟩

def rowRule : Rule := ⟨'├', '╌', '┼', '┤'⟩

def bottomRule : Rule := ⟨'└', '─', '┴', '┘'⟩

def ruleLine (ws : List Nat) (r : Rule) : List Char :=
  r.left :: ([r.cross].intercalate (ws.map fun w => List.replicate (w + 2) r.fill) ++ [r.right])

def lines (t : Table) : List (List Char) :=
  let ws := t.widths
  [ruleLine ws topRule] ++ rowLines ws t.header ++ [ruleLine ws headerRule] ++
    [ruleLine ws rowRule].intercalate (t.rows.map (rowLines ws)) ++ [ruleLine ws bottomRule]

/-- The table as text, without a line feed at its end. -/
def render (t : Table) : String := "\n".intercalate (t.lines.map String.ofList)

theorem width_padded {w : Nat} {line : List Char} (h : width line ≤ w) :
    width (padded w line) = w + 2 := by
  rw [padded, width_blank_cons, width_blanks]
  omega

end Table

end PlanCourier.Text

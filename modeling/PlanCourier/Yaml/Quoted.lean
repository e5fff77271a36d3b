import PlanCourier.Yaml.Folding
import PlanCourier.Text.CodePoints
import PlanCourier.Text.Digits

/-!
# Quoted scalars

Between single quotes two quotes stand for one, and all else for itself. Between double quotes a
backslash starts an escape, and hides the end of a line. No document may start or end within quotes.
-/

namespace PlanCourier.Yaml

open Text (charOf? digitsIn)

/-- The rest of a scalar in single quotes, after what was read of it and the white space after
that, the last character first; with what follows the quote. -/
def single (before : List Char) (gap : Gap) : List Mark → Option (List Char × List Mark)
  | [] => none
  | m :: rest =>
    if isBoundary (m :: rest) then none
    else if isWhite m.char then single before (gap.add m.char) rest
    else
      let before := gap.text ++ before
      if m.char = '\'' then
        match rest with
        | ⟨'\'', _, _, _⟩ :: rest => single ('\'' :: before) .none rest
        | rest => some (before.reverse, rest)
      else single (m.char :: before) .none rest

def shortEscapes : List (Char × Char) :=
  [('0', '\x00'), ('a', '\x07'), ('b', '\x08'), ('t', '\t'), ('\t', '\t'), ('n', '\n'),
    ('v', '\x0b'), ('f', '\x0c'), ('r', '\r'), ('e', '\x1b'), (' ', ' '), ('"', '"'), ('/', '/'),
    ('\\', '\\'), ('N', '\u0085'), ('_', '\u00a0'), ('L', '\u2028'), ('P', '\u2029')]

/-- The letters of the escapes by number, and how many hexadecimal digits follow each. -/
def longEscapes : List (Char × Nat) := [('x', 2), ('u', 4), ('U', 8)]

/-- The character that an escape with this letter stands for, and how many digits after the letter
belong to it. -/
def escape? (letter : Char) (rest : List Mark) : Option (Char × Nat) :=
  match longEscapes.lookup letter with
  | some n =>
    let digits := (rest.take n).map (·.char)
    if digits.length = n then ((digitsIn 16 digits).bind charOf?).map fun c => (c, n) else none
  | none => (shortEscapes.lookup letter).map fun c => (c, 0)

/-- The rest of a scalar in double quotes, as `single`; the next `passed` characters are read
already. -/
def double (before : List Char) (gap : Gap) : (passed : Nat) → List Mark →
    Option (List Char × List Mark)
  | _, [] => none
  | passed + 1, _ :: rest => double before gap passed rest
  | 0, m :: rest =>
    if isBoundary (m :: rest) then none
    else if isWhite m.char then double before (gap.add m.char) 0 rest
    else
      let before := gap.text ++ before
      if m.char = '"' then some (before.reverse, rest)
      else if m.char = '\\' then
        match rest with
        | [] => none
        | letter :: rest =>
          if isBreak letter.char then double before (.lines none []) 0 rest
          else
            match escape? letter.char rest with
            | some (c, n) => double (c :: before) .none n rest
            | none => none
      else double (m.char :: before) .none 0 rest

end PlanCourier.Yaml

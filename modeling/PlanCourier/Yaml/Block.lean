import PlanCourier.Yaml.Folding
import PlanCourier.Text.Digits

/-!
# Block scalars

A block scalar takes its lines as they are, less the indentation that all of them have. A literal
one keeps the ends of its lines; a folded one reads the end of a line between two lines that start
with a word as a blank. How the text ends is chosen by its header.
-/

namespace PlanCourier.Yaml

/-- What becomes of the ends of lines after a block scalar's text. -/
inductive Chomping where
  | strip
  | clip
  | keep
  deriving DecidableEq, Repr

/-- What stands before the lines of a block scalar. -/
structure BlockHeader where
  chomping : Chomping
  /-- How much the lines are indented more than what they stand in, if it is said. -/
  indent : Option Nat
  deriving DecidableEq, Repr

/-- The choice of an ending, if one stands here. -/
def chomping? : List Mark → Option (Chomping × List Mark)
  | ⟨'+', _, _, _⟩ :: rest => some (.keep, rest)
  | ⟨'-', _, _, _⟩ :: rest => some (.strip, rest)
  | _ => none

/-- The digit that may stand here; it must not be zero. -/
def indentation? : List Mark → Option (Option Nat × List Mark)
  | [] => some (none, [])
  | m :: rest =>
    match Text.digitIn? 10 m.char with
    | none => some (none, m :: rest)
    | some 0 => none
    | some n => some (some n, rest)

/-- The header of a block scalar after its first character, and the lines after it. -/
def blockHeader? (ms : List Mark) : Option (BlockHeader × List Mark) := do
  match chomping? ms with
  | some (chomping, ms) =>
    let (indent, ms) ← indentation? ms
    return (⟨chomping, indent⟩, ← restOfLine? ms)
  | none =>
    let (indent, ms) ← indentation? ms
    let (chomping, ms) := if indent.isSome then (chomping? ms).getD (.clip, ms) else (.clip, ms)
    return (⟨chomping, indent⟩, ← restOfLine? ms)

/-- Empty lines before a line of a block scalar. -/
structure Margin where
  /-- The ends of the empty lines. -/
  breaks : List Char
  /-- The greatest column that blanks reach. -/
  widest : Nat
  rest : List Mark
  deriving Repr

/-- Passes over indentation and empty lines, after these. Indentation reaches up to column `indent`
if that is known, and holds no tabs. -/
def margin? (indent : Option Nat) (breaks : List Char) (widest : Nat) : List Mark → Option Margin
  | [] => some ⟨breaks, widest, []⟩
  | m :: rest =>
    if isBlank m.char && indent.all (m.column < ·) then
      if m.char = '\t' then none else margin? indent breaks (max widest (m.column + 1)) rest
    else if isBreak m.char then margin? indent (breaks ++ [m.char]) widest rest
    else some ⟨breaks, widest, m :: rest⟩

def startsBlank (ms : List Mark) : Bool := ms.head?.any fun m => isBlank m.char

/-- What stands between two lines of a block scalar, for the end of the first one, the empty lines
after it, and whether words start both. -/
def glue (folds words : Bool) (ending breaks : List Char) : List Char :=
  if folds && words && ending.head? == some '\n' then if breaks.isEmpty then [' '] else breaks
  else ending ++ breaks

/-- The lines of a block scalar from one on, all of them in this column: their text, the end of the
last one, the empty lines after it, and what follows. `words` says whether words start the line
before, and `between` what stands after it. Each line takes one of `fuel`. -/
def blockLines (folds : Bool) (indent : Nat) : Nat → Bool → List Char → List Char → List Mark →
    Option (List Char × List Char × List Char × List Mark)
  | 0, _, _, _, _ => none
  | fuel + 1, words, ending, breaks, ms =>
    if ms.head?.all (·.column != indent) then some ([], ending, breaks, ms)
    else do
      let startsWord := !startsBlank ms
      let line := (ms.takeWhile fun m => !isBreak m.char).map (·.char)
      let after := ms.dropWhile fun m => !isBreak m.char
      let next ← margin? (some indent) [] 0 after.tail
      let (text, rest) ← blockLines folds indent fuel startsWord (after.take 1 |>.map (·.char))
        next.breaks next.rest
      return (glue folds (words && startsWord) ending breaks ++ line ++ text, rest)

/-- A block scalar after its first character, within what stands in column `outer`, and what follows
it. -/
def block? (folds : Bool) (outer : Option Nat) (ms : List Mark) :
    Option (List Char × List Mark) := do
  let (header, ms) ← blockHeader? ms
  let known := header.indent.map (outer.getD 0 + ·)
  let first ← margin? known [] 0 ms
  let indent := known.getD (max first.widest (outer.elim 1 (· + 1)))
  let (text, ending, breaks, rest) ←
    blockLines folds indent (ms.length + 1) true [] first.breaks first.rest
  match header.chomping with
  | .strip => return (text, rest)
  | .clip => return (text ++ ending, rest)
  | .keep => return (text ++ ending ++ breaks, rest)

end PlanCourier.Yaml

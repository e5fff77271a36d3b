import PlanCourier.Yaml.Block
import PlanCourier.Yaml.Plain
import PlanCourier.Yaml.Quoted
import PlanCourier.Yaml.Tag

/-!
# The tokens of a text

A text is read as a list of tokens that says explicitly what its layout says by indentation: where
block collections start and end, and which parts are names. That a part is a name shows only at its
colon, so each place where a name may have started is kept until it is certain that it is none; when
a colon comes, tokens are put in at that place.

Main statements:

- `length_insertAt`: a token put in at a place makes the list longer by one;
- `indent_of_close`: after block collections were closed down to a column, none that is still open
  lies further right.
-/

namespace PlanCourier.Yaml

/-- A part of a text, or the start or end of something that its layout shows. -/
inductive Token where
  | directive (d : Directive)
  | documentStart
  | documentEnd
  | blockList
  | blockObject
  | blockEnd
  | flowList
  | flowListEnd
  | flowObject
  | flowObjectEnd
  | comma
  | item
  | name
  | value
  | alias (name : String)
  | anchor (name : String)
  | tag (name : TagName)
  /-- A scalar, and whether it is plain. -/
  | scalar (isPlain : Bool) (text : String)
  deriving DecidableEq, Repr

/-- The list with `x` put in after its first `n` elements. -/
def insertAt {α : Type} (n : Nat) (x : α) (xs : List α) : List α := xs.take n ++ x :: xs.drop n

theorem length_insertAt {α : Type} (n : Nat) (x : α) (xs : List α) :
    (insertAt n x xs).length = xs.length + 1 := by
  simp only [insertAt, List.length_append, List.length_cons, List.length_take, List.length_drop]
  omega

/-- A place where a name may have started. -/
structure Candidate where
  /-- How many tokens stand before it. -/
  place : Nat
  mark : Mark
  /-- Whether nothing but a name can stand there. -/
  required : Bool
  deriving DecidableEq, Repr

/-- What was read of a text. -/
structure Outline where
  /-- The tokens, the last one first. -/
  tokens : List Token
  /-- The columns of the block collections that are open, the innermost one first. -/
  columns : List Nat
  /-- For each flow collection that is open the name that may have started in it, the innermost one
  first. -/
  flows : List (Option Candidate)
  /-- The name that may have started outside of flow collections. -/
  candidate : Option Candidate
  /-- Whether a name may start here. -/
  mayName : Bool
  deriving DecidableEq, Repr

namespace Outline

def empty : Outline := ⟨[], [], [], none, true⟩

def inFlow (o : Outline) : Bool := !o.flows.isEmpty

/-- The column of the innermost block collection. -/
def indent (o : Outline) : Option Nat := o.columns.head?

/-- The least column of what belongs to the innermost block collection. -/
def least (o : Outline) : Nat := o.indent.elim 0 (· + 1)

def push (o : Outline) (t : Token) : Outline := { o with tokens := t :: o.tokens }

/-- The name that may have started in the innermost collection. -/
def current (o : Outline) : Option Candidate :=
  match o.flows with
  | [] => o.candidate
  | c :: _ => c

/-- The outline with another name in the innermost collection. -/
def setCurrent (o : Outline) (c : Option Candidate) : Outline :=
  match o.flows with
  | [] => { o with candidate := c }
  | _ :: rest => { o with flows := c :: rest }

/-- Gives up the name that may have started, unless it is required. -/
def dropName? (o : Outline) : Option Outline :=
  if o.current.any (·.required) then none else some (o.setCurrent none)

/-- Whether a name that started at the candidate may still end here: it stands in one line, and is
not too long. -/
def Candidate.reaches (m : Mark) (c : Candidate) : Bool :=
  m.line ≤ c.mark.line && m.index ≤ c.mark.index + 1024

/-- Gives up the names that cannot end at the mark any more, unless one of them is required. -/
def dropStale? (o : Outline) (m : Mark) : Option Outline :=
  if (o.candidate :: o.flows).any fun c => c.any fun c => c.required && !Candidate.reaches m c then
    none
  else
    some { o with
      candidate := o.candidate.filter (Candidate.reaches m)
      flows := o.flows.map (·.filter (Candidate.reaches m)) }

/-- Notes that a name may start at the mark. -/
def noteName? (o : Outline) (m : Mark) : Option Outline :=
  if !o.mayName then some o
  else do
    let o ← o.dropName?
    return o.setCurrent (some ⟨o.tokens.length, m, !o.inFlow && o.indent == some m.column⟩)

/-- The tokens and columns after the block collections were closed that lie further right than the
column; all of them if there is none. -/
def closed (column : Option Nat) : List Nat → List Token → List Nat × List Token
  | [], ts => ([], ts)
  | c :: cs, ts =>
    if column.any (c ≤ ·) then (c :: cs, ts) else closed column cs (.blockEnd :: ts)

/-- Closes the block collections further right than the column, outside of flow collections. -/
def close (o : Outline) (column : Option Nat) : Outline :=
  if o.inFlow then o
  else
    let (columns, tokens) := closed column o.columns o.tokens
    { o with columns, tokens }

/-- Opens a block collection in this column after the first `place` tokens, if it lies further right
than the innermost one. -/
def openBlock (o : Outline) (column place : Nat) (t : Token) : Outline :=
  if o.inFlow || o.indent.any (column ≤ ·) then o
  else
    { o with
      columns := column :: o.columns
      tokens := insertAt (o.tokens.length - place) t o.tokens }

/-- The outline after which names may start or not. -/
def naming (o : Outline) (b : Bool) : Outline := { o with mayName := b }

def openFlow? (o : Outline) (m : Mark) (t : Token) : Option Outline := do
  let o ← o.noteName? m
  return { o.push t with flows := none :: o.flows, mayName := true }

def closeFlow? (o : Outline) (t : Token) : Option Outline := do
  let o ← o.dropName?
  return { o.push t with flows := o.flows.tail, mayName := false }

def comma? (o : Outline) : Option Outline := do
  return ((← o.dropName?).naming true).push .comma

/-- The mark of an item of a block list, or of a name, which opens a collection of its kind. -/
def entry? (o : Outline) (m : Mark) (opening t : Token) : Option Outline :=
  if !o.inFlow && !o.mayName then none
  else do
    let o ← (o.openBlock m.column o.tokens.length opening).dropName?
    return (o.naming (t == .item || !o.inFlow)).push t

/-- A colon. If a name may have started, it did: the tokens of the name, and of the object that it
opens, are put in where it started. -/
def value? (o : Outline) (m : Mark) : Option Outline :=
  match o.current with
  | some c =>
    let o := { o with tokens := insertAt (o.tokens.length - c.place) .name o.tokens }
    some (((o.openBlock c.mark.column c.place .blockObject).setCurrent none).naming false
      |>.push .value)
  | none =>
    if !o.inFlow && !o.mayName then none
    else
      some (((o.openBlock m.column o.tokens.length .blockObject).naming (!o.inFlow)).push .value)

/-- Something of a value that may be or start a name. -/
def part? (o : Outline) (m : Mark) (t : Token) : Option Outline := do
  return ((← o.noteName? m).naming false).push t

def blockScalar? (o : Outline) (text : List Char) : Option Outline := do
  return ((← o.dropName?).naming true).push (.scalar false (String.ofList text))

/-- Something between documents: it closes all block collections. -/
def boundary? (o : Outline) (t : Token) : Option Outline := do
  return ((← (o.close none).dropName?).naming false).push t

end Outline

/-- Passes over blanks, comments and ends of lines. A tab is a blank only in a flow collection and
where no name may start, and a byte order mark at the start of a line; outside of flow collections a
name may start in each new line. -/
def skipGap (inFlow mayName comment : Bool) : List Mark → Bool × List Mark
  | [] => (mayName, [])
  | m :: rest =>
    if isBreak m.char then skipGap inFlow (mayName || !inFlow) false rest
    else if comment || m.char == ' ' || (m.char == '\t' && (inFlow || !mayName)) ||
        (m.char == '\ufeff' && m.column == 0) then
      skipGap inFlow mayName comment rest
    else if m.char == '#' then skipGap inFlow mayName true rest
    else (mayName, m :: rest)

namespace Outline

/-- The outline after what stands here, and what follows it. -/
def token? (o : Outline) (m : Mark) (rest : List Mark) : Option (Outline × List Mark) :=
  let c := m.char
  let marked := o.inFlow || isClear rest
  if m.column = 0 ∧ c = '%' then do
    let (d, rest) ← directive? rest
    return (← o.boundary? (.directive d), rest)
  else if isRule '-' (m :: rest) then do return (← o.boundary? .documentStart, rest.drop 2)
  else if isRule '.' (m :: rest) then do return (← o.boundary? .documentEnd, rest.drop 2)
  else if c = '[' then do return (← o.openFlow? m .flowList, rest)
  else if c = '\x7b' then do return (← o.openFlow? m .flowObject, rest)
  else if c = ']' then do return (← o.closeFlow? .flowListEnd, rest)
  else if c = '\x7d' then do return (← o.closeFlow? .flowObjectEnd, rest)
  else if c = ',' then do return (← o.comma?, rest)
  else if c = '-' ∧ isClear rest then do return (← o.entry? m .blockList .item, rest)
  else if c = '?' ∧ marked then do return (← o.entry? m .blockObject .name, rest)
  else if c = ':' ∧ marked then do return (← o.value? m, rest)
  else if c = '*' then do
    let (name, rest) ← anchor? rest
    return (← o.part? m (.alias name), rest)
  else if c = '&' then do
    let (name, rest) ← anchor? rest
    return (← o.part? m (.anchor name), rest)
  else if c = '!' then do
    let (name, rest) ← tagName? o.inFlow rest
    return (← o.part? m (.tag name), rest)
  else if !o.inFlow ∧ (c = '|' ∨ c = '>') then do
    let (text, rest) ← block? (c == '>') o.indent rest
    return (← o.blockScalar? text, rest)
  else if c = '\'' then do
    let (text, rest) ← single [] .none rest
    return (← o.part? m (.scalar false (String.ofList text)), rest)
  else if c = '"' then do
    let (text, rest) ← double [] .none 0 rest
    return (← o.part? m (.scalar false (String.ofList text)), rest)
  else if startsPlain o.inFlow (m :: rest) then do
    let p ← plain o.inFlow o.least [] .none (m :: rest)
    let o ← o.part? m (.scalar true (String.ofList p.text))
    return (if p.isBroken then o.naming true else o, p.rest)
  else none

/-- The tokens of a text after what was read of it. Each token takes one of `fuel`. -/
def tokens? : Nat → Outline → List Mark → Option (List Token)
  | 0, _, _ => none
  | fuel + 1, o, ms =>
    let (mayName, ms) := skipGap o.inFlow o.mayName false ms
    let o := o.naming mayName
    match ms with
    | [] => (o.close none).dropName?.map (·.tokens.reverse)
    | m :: rest => do
      let o ← o.dropStale? m
      let (o, rest) ← (o.close (some m.column)).token? m rest
      tokens? fuel o rest

theorem columns_closed {column : Nat} {cs : List Nat} {ts : List Token} {c : Nat}
    (h : (closed (some column) cs ts).1.head? = some c) : c ≤ column := by
  induction cs generalizing ts with
  | nil => cases h
  | cons x xs ih =>
    unfold closed at h
    split at h
    next hx =>
      obtain rfl : x = c := by simpa using h
      simpa using hx
    next => exact ih h

theorem indent_of_close {o : Outline} {column c : Nat} (ho : o.inFlow = false)
    (h : (o.close (some column)).indent = some c) : c ≤ column := by
  simp only [close, ho] at h
  exact columns_closed h

end Outline

/-- The tokens of a text, if its layout is sound. -/
def tokens? (s : String) : Option (List Token) := do
  let ms ← marks? s
  Outline.tokens? (ms.length + 1) .empty ms

end PlanCourier.Yaml

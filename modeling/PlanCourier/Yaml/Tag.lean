import PlanCourier.Yaml.Mark
import PlanCourier.Text.Digits

/-!
# Tags, anchors and directives

What may stand before a value beside its text: an anchor names it, and a tag says what kind of value
it is. A tag is a handle with a suffix, and directives before a document say what the handles stand
for. Tags are kept as bytes, since their escapes are written byte by byte.
-/

namespace PlanCourier.Yaml

open Text (digitIn? digitsIn)

/-- Whether the character may stand in an anchor, a handle or the name of a directive. -/
def isNameChar (c : Char) : Bool := c.isAlphanum || c == '_' || c == '-'

/-- The characters of a name that come next, and what follows them. -/
def spanName (ms : List Mark) : List Char × List Mark :=
  ((ms.takeWhile fun m => isNameChar m.char).map (·.char), ms.dropWhile fun m => isNameChar m.char)

/-- An anchor or an alias after its first character. -/
def anchor? (ms : List Mark) : Option (String × List Mark) :=
  let (name, rest) := spanName ms
  if name.isEmpty then none
  else if isClear rest || rest.head?.any (fun m => "?:,]\x7d%@\x60".toList.contains m.char) then
    some (String.ofList name, rest)
  else none

/-- Whether the character stands for itself in a tag. The marks of flow collections do so only
where the tag cannot end at one. -/
def isTagChar (closed : Bool) (c : Char) : Bool :=
  isNameChar c || ";/?:@&=+$.!~*'()".toList.contains c || (closed && ",[]".toList.contains c)

/-- How many bytes follow the first byte of a character. -/
def trailing? (b : Nat) : Option Nat :=
  if b < 0x80 then some 0
  else if b < 0xC0 then none
  else if b < 0xE0 then some 1
  else if b < 0xF0 then some 2
  else if b < 0xF8 then some 3
  else none

/-- The rest of a tag after what was read of it, the last byte first; `due` more bytes belong to the
character that was begun. -/
def tagRest (closed : Bool) (before : List UInt8) (due : Nat) : List Mark →
    Option (List UInt8 × List Mark)
  | [] => if due = 0 then some (before.reverse, []) else none
  | m :: rest =>
    if m.char = '%' then
      match rest with
      | x :: y :: rest =>
        match digitsIn 16 [x.char, y.char] with
        | none => none
        | some b =>
          if due = 0 then
            match trailing? b with
            | some n => tagRest closed (b.toUInt8 :: before) n rest
            | none => none
          else if b / 64 = 2 then tagRest closed (b.toUInt8 :: before) (due - 1) rest
          else none
      | _ => none
    else if due ≠ 0 then none
    else if isTagChar closed m.char then tagRest closed (m.char.toNat.toUInt8 :: before) 0 rest
    else some (before.reverse, m :: rest)

/-- The bytes of a text up to the first one that is zero: nothing after it counts. -/
def counted (bytes : List UInt8) : List UInt8 := bytes.takeWhile (· != 0)

/-- A tag as it is written: a handle, unless the tag is written whole, and what follows it. -/
structure TagName where
  handle : Option String
  suffix : List UInt8
  deriving DecidableEq, Repr

def asciiBytes (cs : List Char) : List UInt8 := cs.map fun c => c.toNat.toUInt8

/-- The tag that is only an exclamation mark. -/
def plainTag : List UInt8 := [0x21]

/-- A tag after its first character, and what follows; that has to be a blank or the end of a line,
or in a flow collection a comma. -/
def tagName? (inFlow : Bool) (ms : List Mark) : Option (TagName × List Mark) := do
  let (tag, rest) ← match ms with
    | ⟨'<', _, _, _⟩ :: ms => do
      let (suffix, rest) ← tagRest true [] 0 ms
      if suffix.isEmpty || !startsWith '>' rest then none
      else some (⟨none, counted suffix⟩, rest.tail)
    | ms => do
      let (name, after) := spanName ms
      if startsWith '!' after then
        let (suffix, rest) ← tagRest false [] 0 after.tail
        if suffix.isEmpty then none
        else some (⟨some (String.ofList ('!' :: name ++ ['!'])), counted suffix⟩, rest)
      else
        let (suffix, rest) ← tagRest false (asciiBytes name).reverse 0 after
        let suffix := counted suffix
        some (if suffix.isEmpty then ⟨none, plainTag⟩ else ⟨some "!", suffix⟩, rest)
  if isClear rest || (inFlow && startsWith ',' rest) then some (tag, rest) else none

abbrev Handles := List (String × List UInt8)

/-- The handles that stand for something in every document. -/
def knownHandles : Handles :=
  [("!", plainTag), ("!!", asciiBytes "tag:yaml.org,2002:".toList)]

/-- The tag that is meant; none if nothing is known of its handle. -/
def TagName.bytes? (handles : Handles) (t : TagName) : Option (List UInt8) :=
  match t.handle with
  | none => some t.suffix
  | some handle => (handles.lookup handle).map (· ++ t.suffix)

inductive Directive where
  | version
  | handle (name : String) (start : List UInt8)
  deriving DecidableEq, Repr

/-- A number of a version, of nine digits at most. -/
def versionNumber? (ms : List Mark) : Option (Nat × List Mark) :=
  let digits := (ms.takeWhile fun m => m.char.isDigit).map (·.char)
  if digits.length ≤ 9 then (digitsIn 10 digits).map fun n => (n, ms.drop digits.length) else none

/-- The directive of a version after its name: it is for version 1.1 or 1.2. -/
def versionDirective? (ms : List Mark) : Option (Directive × List Mark) := do
  let (major, ms) ← versionNumber? (skipBlanks ms)
  if !startsWith '.' ms then none
  else
    let (minor, ms) ← versionNumber? ms.tail
    if major = 1 ∧ (minor = 1 ∨ minor = 2) then some (.version, ms) else none

def handleDirective? (ms : List Mark) : Option (Directive × List Mark) :=
  match skipBlanks ms with
  | ⟨'!', _, _, _⟩ :: ms => do
    let (name, after) := spanName ms
    let (handle, ms) ←
      if startsWith '!' after then some (String.ofList ('!' :: name ++ ['!']), after.tail)
      else if name.isEmpty then some ("!", after)
      else none
    if !ms.head?.any (fun m => isBlank m.char) then none
    else
      let (start, rest) ← tagRest true [] 0 (skipBlanks ms)
      if start.isEmpty || !isClear rest then none else some (.handle handle (counted start), rest)
  | _ => none

/-- A directive after its first character, and what follows its line. -/
def directive? (ms : List Mark) : Option (Directive × List Mark) := do
  let (name, ms) := spanName ms
  if !isClear ms then none
  else
    let (d, ms) ←
      match String.ofList name with
      | "YAML" => versionDirective? ms
      | "TAG" => handleDirective? ms
      | _ => none
    return (d, ← restOfLine? ms)

/-- What handles stand for after directives; no two of them may be for the same. -/
def handlesOf? (ds : List Directive) : Option Handles :=
  let handles := ds.filterMap fun
    | .version => none
    | .handle name start => some (name, start)
  if ds.count .version ≤ 1 ∧ (handles.map (·.1)).Nodup then some (handles ++ knownHandles) else none

end PlanCourier.Yaml

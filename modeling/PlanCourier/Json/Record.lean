import PlanCourier.Json.Printer
import PlanCourier.Text.Decimal
import PlanCourier.Text.Quoted

/-!
# Reading records from JSON values

A record is read from an object by the names of its fields, or from a list by their places. Of
several things that are wrong with a value the first is reported: the members of an object are
looked at in their order, then the fields that are missing, in the order of the record.

A reader of fields gives a `Reading`: the fields read so far, or the earliest fault. Readings are
combined with `<*>`, which keeps the earlier of two faults, so a record's reader is its constructor
applied to its fields.

Main statements:

- `seq_ok`: fields that can all be read give the record;
- `Misfit.message`: the wording of every fault.
-/

namespace PlanCourier

open PlanCourier.Text

/-- What is wrong with a value that is read as something. -/
inductive Misfit where
  /-- A field that the record needs is not there. -/
  | missing (field : String)
  /-- A field is there twice, under one name or under two. -/
  | twice (field : String)
  /-- The value is of another kind than the `wanted` one. -/
  | kind (given : Json) (wanted : String)
  /-- The integer lies outside the `wanted` range. -/
  | range (given : Int) (wanted : String)
  /-- A list has not as many items as the record has fields. -/
  | length (count : Nat) (wanted : String)
  /-- The text is none of the `known` words. -/
  | word (given : String) (known : List String)
  /-- An object stands for a word without having just one member. -/
  | severalWords
  deriving DecidableEq, Repr

namespace Misfit

/-- What kind of value stands there. -/
def describe : Json → String
  | .null => "null"
  | .bool b => "boolean `" ++ (if b then "true" else "false") ++ "`"
  | .number (.whole i) => "integer `" ++ integerText i ++ "`"
  | .number (.real x) => "floating point `" ++ (Json.number (.real x)).compactText ++ "`"
  | .text s => "string " ++ quoted s
  | .list _ => "sequence"
  | .object _ => "map"

def alternatives : List String → String
  | [a] => s!"`{a}`"
  | [a, b] => s!"`{a}` or `{b}`"
  | words => "one of " ++ ", ".intercalate (words.map fun w => "`" ++ w ++ "`")

def message : Misfit → String
  | .missing field => s!"missing field `{field}`"
  | .twice field => s!"duplicate field `{field}`"
  | .kind given wanted => s!"invalid type: {describe given}, expected {wanted}"
  | .range given wanted => s!"invalid value: integer `{integerText given}`, expected {wanted}"
  | .length count wanted => s!"invalid length {naturalText count}, expected {wanted}"
  | .word given known => s!"unknown variant `{given}`, expected {alternatives known}"
  | .severalWords => "invalid value: map, expected map with a single key"

end Misfit

abbrev Decode (α : Type) := Json → Except Misfit α

namespace Decode

def any : Decode Json := .ok

def text : Decode String
  | .text s => .ok s
  | v => .error (.kind v "a string")

def bool : Decode Bool
  | .bool b => .ok b
  | v => .error (.kind v "a boolean")

def whole (range : Span) (wanted : String) : Decode Int
  | .number (.whole i) => if range.holds i then .ok i else .error (.range i wanted)
  | v => .error (.kind v wanted)

def int64 : Decode Int := whole .signed64 "i64"

def word64 : Decode UInt64 := fun v => (whole .unsigned64 "u64" v).map fun i => .ofNat i.toNat

def word32 : Decode UInt32 := fun v => (whole .unsigned32 "u32" v).map fun i => .ofNat i.toNat

/-- A real number; an integer gives the nearest one. -/
def real : Decode Real.Binary64
  | .number (.whole i) => .ok (.ofInt i)
  | .number (.real x) => .ok x
  | v => .error (.kind v "f64")

def items (decode : Decode α) : List Json → Except Misfit (List α)
  | [] => .ok []
  | v :: rest =>
    match decode v with
    | .error m => .error m
    | .ok a => (items decode rest).map (a :: ·)

def list (decode : Decode α) : Decode (List α)
  | .list vs => items decode vs
  | v => .error (.kind v "a sequence")

/-- Reads one member's value after another. -/
def values (decode : Decode α) : List (String × Json) → Except Misfit (List (String × α))
  | [] => .ok []
  | (k, v) :: rest =>
    match decode v with
    | .error m => .error m
    | .ok a => (values decode rest).map ((k, a) :: ·)

/-- A table by name. -/
def table (decode : Decode α) : Decode (List (String × α))
  | .object ms => values decode ms
  | v => .error (.kind v "a map")

def nullable (decode : Decode α) : Decode (Option α)
  | .null => .ok none
  | v => (decode v).map some

def wordOf (known : List (String × α)) (s : String) : Except Misfit α :=
  match known.lookup s with
  | some a => .ok a
  | none => .error (.word s (known.map (·.1)))

/-- A word of a choice: a text, or an object with the word as its only name and null under it. -/
def word (known : List (String × α)) : Decode α
  | .text s => wordOf known s
  | .object [(s, v)] =>
    match wordOf known s with
    | .error m => .error m
    | .ok a => if v = .null then .ok a else .error (.kind v "unit")
  | .object _ => .error .severalWords
  | v => .error (.kind v "string or map")

end Decode

/-- A fault at a place of the record's text. -/
structure Fault where
  place : Nat
  misfit : Misfit
  deriving DecidableEq, Repr

/-- Fields that were read, or the earliest fault. -/
inductive Reading (α : Type) where
  | read (fields : α)
  | faulty (fault : Fault)
  deriving Repr

namespace Reading

/-- The earlier of two faults. -/
def earlier (a b : Fault) : Fault := if b.place < a.place then b else a

/-- Applies what one reading gives to what another one gives. -/
def seq : Reading (α → β) → Reading α → Reading β
  | .read f, .read a => .read (f a)
  | .read _, .faulty e => .faulty e
  | .faulty e, .read _ => .faulty e
  | .faulty e, .faulty e' => .faulty (earlier e e')

instance : Applicative Reading where
  pure := .read
  seq f x := seq f (x ())

/-- The reading with its place forgotten. -/
def result : Reading α → Except Misfit α
  | .read a => .ok a
  | .faulty e => .error e.misfit

@[simp] theorem seq_ok (f : α → β) (a : α) : (Reading.read f <*> Reading.read a) = .read (f a) :=
  rfl

@[simp] theorem map_ok (f : α → β) (a : α) : (f <$> Reading.read a) = .read (f a) := rfl

@[simp] theorem result_read (a : α) : (Reading.read a).result = .ok a := rfl

end Reading

/-- Where the fields of a record come from: the members of an object, or the items of a list, of
which the `wanted` record has `count`. -/
inductive Source where
  | members (ms : List (String × Json))
  | items (vs : List Json) (wanted : String)

namespace Source

/-- The members with one of the names, each with its place, counted from `place`. -/
def occurrences (names : List String) (place : Nat) : List (String × Json) → List (Nat × Json)
  | [] => []
  | (k, v) :: rest =>
    if names.contains k then (place, v) :: occurrences names (place + 1) rest
    else occurrences names (place + 1) rest

def readAt (place : Nat) (decode : Decode α) (v : Json) : Reading α :=
  match decode v with
  | .ok a => .read a
  | .error m => .faulty ⟨place, m⟩

/-- Reads the field with this index. `absent` is what stands for a field that is not there, if
anything does; the field may have other names than its own, the `aliases`. -/
def field (s : Source) (index : Nat) (name : String) (decode : Decode α) (absent : Option α)
    (aliases : List String) : Reading α :=
  match s with
  | .members ms =>
    match occurrences (name :: aliases) 0 ms with
    | [] =>
      match absent with
      | some a => .read a
      | none => .faulty ⟨ms.length + index, .missing name⟩
    | [(place, v)] => readAt place decode v
    | (place, v) :: (again, _) :: _ =>
      match readAt place decode v with
      | .read _ => .faulty ⟨again, .twice name⟩
      | fault => fault
  | .items vs wanted =>
    match vs[index]? with
    | some v => readAt index decode v
    | none =>
      match absent with
      | some a => .read a
      | none => .faulty ⟨index, .length index wanted⟩

def required (s : Source) (index : Nat) (name : String) (decode : Decode α) : Reading α :=
  s.field index name decode none []

/-- A field with a value for where it is not there. -/
def defaulted (s : Source) (index : Nat) (name : String) (decode : Decode α) (absent : α) :
    Reading α :=
  s.field index name decode (some absent) []

/-- A field that may be left out or null. -/
def optional (s : Source) (index : Nat) (name : String) (decode : Decode α) : Reading (Option α) :=
  s.field index name (Decode.nullable decode) (some none) []

end Source

/-- Reads a record of `count` fields: from an object by name, from a list by place. -/
def Decode.record (name : String) (count : Nat) (read : Source → Reading α) : Decode α
  | .object ms => (read (.members ms)).result
  | .list vs =>
    let elements := if count = 1 then "1 element" else s!"{naturalText count} elements"
    match (read (.items vs s!"struct {name} with {elements}")).result with
    | .error m => .error m
    | .ok a =>
      if vs.length ≤ count then .ok a
      else .error (.length vs.length "fewer elements in array")
  | v => .error (.kind v s!"struct {name}")

end PlanCourier

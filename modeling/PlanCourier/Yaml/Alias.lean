import PlanCourier.Yaml.Node
import PlanCourier.Yaml.Scalar

/-!
# Aliases and the value of a document

An alias stands for the node that has its anchor. A node gets its value with all aliases in it
followed; how deep collections may lie in each other, and how many aliases may be followed, is
bounded, so that no document stands for more than can be held.
-/

namespace PlanCourier.Yaml

namespace Node

/-! ## Numbered anchors -/

/-- The numbers that names of anchors have at some place of a document. -/
abbrev Numbering := List (String × Nat)

/-- The number of a new anchor: how many names there are before it. So a name that is given again
shares its number with the next new name. -/
def number (ids : Numbering) (name : String) : Numbering × Nat :=
  ((name, ids.length) :: ids.filter fun entry => entry.1 != name, ids.length)

/-- What stands before a node with its anchor numbered. -/
def numberProperties (ids : Numbering) (p : Properties String) : Numbering × Properties Nat :=
  match p.anchor with
  | none => (ids, ⟨none, p.tag⟩)
  | some name =>
    let (ids, id) := number ids name
    (ids, ⟨some id, p.tag⟩)

mutual

/-- The node with numbers for the names of anchors; no alias may come before its anchor. -/
def numbered? (ids : Numbering) : Node String → Option (Numbering × Node Nat)
  | .alias name => (ids.lookup name).map fun id => (ids, .alias id)
  | .scalar p isPlain text =>
    let (ids, p) := numberProperties ids p
    some (ids, .scalar p isPlain text)
  | .list p items =>
    let (ids, p) := numberProperties ids p
    (numberedItems? ids items).map fun (ids, items) => (ids, .list p items)
  | .object p members =>
    let (ids, p) := numberProperties ids p
    (numberedMembers? ids members).map fun (ids, members) => (ids, .object p members)

/-- The items with numbers for the names of anchors. -/
def numberedItems? (ids : Numbering) : List (Node String) → Option (Numbering × List (Node Nat))
  | [] => some (ids, [])
  | v :: rest =>
    match numbered? ids v with
    | none => none
    | some (ids, v) => (numberedItems? ids rest).map fun (ids, rest) => (ids, v :: rest)

/-- The members with numbers for the names of anchors. -/
def numberedMembers? (ids : Numbering) :
    List (Node String × Node String) → Option (Numbering × List (Node Nat × Node Nat))
  | [] => some (ids, [])
  | (k, v) :: rest =>
    match numbered? ids k with
    | none => none
    | some (ids, k) =>
      match numbered? ids v with
      | none => none
      | some (ids, v) => (numberedMembers? ids rest).map fun (ids, rest) => (ids, (k, v) :: rest)

end

/-- The nodes that numbers stand for. -/
abbrev Targets := List (Nat × Node Nat)

def target (p : Properties Nat) (n : Node Nat) : Targets :=
  match p.anchor with
  | none => []
  | some id => [(id, n)]

mutual

/-- The nodes with anchors, in the order in which they start. -/
def targets : Node Nat → Targets
  | .alias _ => []
  | .scalar p isPlain text => target p (.scalar p isPlain text)
  | .list p items => target p (.list p items) ++ targetsOfItems items
  | .object p members => target p (.object p members) ++ targetsOfMembers members

/-- The nodes with anchors among items. -/
def targetsOfItems : List (Node Nat) → Targets
  | [] => []
  | v :: rest => v.targets ++ targetsOfItems rest

/-- The nodes with anchors among members. -/
def targetsOfMembers : List (Node Nat × Node Nat) → Targets
  | [] => []
  | (k, v) :: rest => k.targets ++ v.targets ++ targetsOfMembers rest

end

/-! ## Values -/

/-- How many collections may lie in each other. -/
def depthLimit : Nat := 128

/-- A reading that follows aliases, of which this many are left. -/
abbrev Following (β : Type) := StateT Nat Option β

/-- The node that stands here: for an alias the last one with its anchor. -/
def followed (ts : Targets) : Node Nat → Following (Node Nat)
  | .alias id => fun left =>
    match left, ts.reverse.lookup id with
    | left + 1, some n => some (n, left)
    | _, _ => none
  | n => pure n

def allowsCollection (tag : Option (List UInt8)) : Bool := !tag.any isForeign

def name? (ts : Targets) (n : Node Nat) : Following String := do
  match ← followed ts n with
  | .scalar _ _ text => pure text
  | _ => failure

/-- The members of an object, each of them read by `value`; of those with one name the last one
counts. -/
def members? (ts : Targets) (value : Node Nat → Following Json)
    (members : List (Node Nat × Node Nat)) : Following Json := do
  let ms ← members.mapM fun (k, v) => do return (← name? ts k, ← value v)
  return .object (ms.foldl (fun ms (name, v) => Json.insertMember name v ms) [])

/-- The value of a scalar; nothing else has one without going deeper. -/
def scalarValue? : Node Nat → Following Json
  | .scalar p isPlain text => fun left => (ofScalar? p.tag isPlain text).map fun v => (v, left)
  | _ => failure

/-- The value of a node in which collections may lie in each other this deep. -/
def value? (ts : Targets) : Nat → Node Nat → Following Json
  | 0, n => do scalarValue? (← followed ts n)
  | depth + 1, n => do
    match ← followed ts n with
    | .list p items =>
      if allowsCollection p.tag then return .list (← items.mapM (value? ts depth)) else failure
    | .object p ms =>
      if allowsCollection p.tag then members? ts (value? ts depth) ms else failure
    | n => scalarValue? n

/-- The object that a document is. An empty document is one without members; its tag does not
count. -/
def document? (n : Node String) : Option Json := do
  let (_, n) ← numbered? [] n
  let ts := n.targets
  match n with
  | .scalar _ isPlain text => if isPlain && text.isEmpty then some (.object []) else none
  | .object _ ms => ((members? ts (value? ts (depthLimit - 1)) ms).run (100 * n.size)).map (·.1)
  | _ => none

end Node

end PlanCourier.Yaml

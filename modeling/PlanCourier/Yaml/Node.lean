import PlanCourier.Yaml.Token

/-!
# The nodes of a document

A document is a tree of nodes: scalars, lists, objects, and aliases of other nodes. A node may have
an anchor and a tag. What is left out, such as the value after a name, is an empty scalar.
-/

namespace PlanCourier.Yaml

/-- What may stand before a node: an anchor, which is a value of `α`, and a tag. -/
structure Properties (α : Type) where
  anchor : Option α
  tag : Option (List UInt8)
  deriving DecidableEq, Repr

def Properties.none {α : Type} : Properties α := ⟨Option.none, Option.none⟩

/-- A part of a document. Anchors are values of `α`. -/
inductive Node (α : Type) where
  | alias (anchor : α)
  | scalar (properties : Properties α) (isPlain : Bool) (text : String)
  | list (properties : Properties α) (items : List (Node α))
  | object (properties : Properties α) (members : List (Node α × Node α))
  deriving Repr

namespace Node

/-- What is left out. -/
def empty {α : Type} : Node α := .scalar .none true ""

variable {α : Type}

mutual

/-- How many parts a node has: a collection counts its start and its end. -/
def size : Node α → Nat
  | .alias _ | .scalar _ _ _ => 1
  | .list _ items => 2 + sizeOfItems items
  | .object _ members => 2 + sizeOfMembers members

def sizeOfItems : List (Node α) → Nat
  | [] => 0
  | v :: rest => v.size + sizeOfItems rest

def sizeOfMembers : List (Node α × Node α) → Nat
  | [] => 0
  | (k, v) :: rest => k.size + v.size + sizeOfMembers rest

end

end Node

/-- What stands before a node, and what follows it. -/
def properties? (handles : Handles) : List Token → Option (Properties String × List Token)
  | .anchor a :: .tag t :: rest | .tag t :: .anchor a :: rest =>
    (t.bytes? handles).map fun tag => (⟨some a, some tag⟩, rest)
  | .anchor a :: rest => some (⟨some a, none⟩, rest)
  | .tag t :: rest => (t.bytes? handles).map fun tag => (⟨none, some tag⟩, rest)
  | rest => some (.none, rest)

def comesNext (bounds : List Token) (ts : List Token) : Bool := ts.head?.any (bounds.contains ·)

/-- Where a node may stand: whether it may be a block collection, and whether it may be a list
whose items are not indented. -/
structure Position where
  inBlock : Bool
  besideName : Bool
  deriving DecidableEq, Repr

abbrev NodeRead := Option (Node String × List Token)

/-- A node that consists of what stands before it. -/
def emptyNode? (p : Properties String) (ts : List Token) : NodeRead :=
  if p.anchor.isSome || p.tag.isSome then some (.scalar p true "", ts) else none

/-- What stands after the comma before a part of a flow collection; the first one has none. -/
def flowPart? (isFirst : Bool) : List Token → Option (List Token)
  | .comma :: ts => if isFirst then some (.comma :: ts) else some ts
  | ts => if isFirst then some ts else none

section

variable (handles : Handles)

mutual

/-- The node that comes next; every call takes one of `fuel`. -/
def node? : Nat → Position → List Token → NodeRead
  | 0, _, _ => none
  | _ + 1, _, .alias name :: rest => some (.alias name, rest)
  | fuel + 1, place, ts =>
    match properties? handles ts with
    | none => none
    | some (p, ts) =>
      match ts with
      | .scalar isPlain text :: rest => some (.scalar p isPlain text, rest)
      | .flowList :: rest => flowItems? fuel true p [] rest
      | .flowObject :: rest => flowMembers? fuel true p [] rest
      | .item :: rest =>
        if place.besideName then besideItems? fuel p [] (.item :: rest)
        else emptyNode? p (.item :: rest)
      | .blockList :: rest =>
        if place.inBlock then blockItems? fuel p [] rest else emptyNode? p (.blockList :: rest)
      | .blockObject :: rest =>
        if place.inBlock then blockMembers? fuel p [] rest else emptyNode? p (.blockObject :: rest)
      | ts => emptyNode? p ts

/-- A node, or an empty one if one of the bounds comes next. -/
def nodeBefore? : Nat → Position → List Token → List Token → NodeRead
  | 0, _, _, _ => none
  | fuel + 1, place, bounds, ts =>
    if comesNext bounds ts then some (.empty, ts) else node? fuel place ts

/-- The value of a member, which is empty if there is no colon, or one of the bounds follows it. -/
def memberValue? : Nat → Position → List Token → List Token → NodeRead
  | 0, _, _, _ => none
  | fuel + 1, place, bounds, .value :: ts => nodeBefore? fuel place bounds ts
  | _ + 1, _, _, ts => some (.empty, ts)

/-- The rest of a block list after these items, the last one first. -/
def blockItems? : Nat → Properties String → List (Node String) → List Token → NodeRead
  | 0, _, _, _ => none
  | fuel + 1, p, before, .item :: ts =>
    match nodeBefore? fuel ⟨true, false⟩ [.item, .blockEnd] ts with
    | none => none
    | some (v, ts) => blockItems? fuel p (v :: before) ts
  | _ + 1, p, before, .blockEnd :: ts => some (.list p before.reverse, ts)
  | _ + 1, _, _, _ => none

/-- The rest of a block list whose items stand in the column of the name before it. -/
def besideItems? : Nat → Properties String → List (Node String) → List Token → NodeRead
  | 0, _, _, _ => none
  | fuel + 1, p, before, .item :: ts =>
    match nodeBefore? fuel ⟨true, false⟩ [.item, .name, .value, .blockEnd] ts with
    | none => none
    | some (v, ts) => besideItems? fuel p (v :: before) ts
  | _ + 1, p, before, ts => some (.list p before.reverse, ts)

/-- The rest of a block object after these members, the last one first. -/
def blockMembers? : Nat → Properties String → List (Node String × Node String) → List Token →
    NodeRead
  | 0, _, _, _ => none
  | fuel + 1, p, before, .name :: ts =>
    match nodeBefore? fuel ⟨true, true⟩ [.name, .value, .blockEnd] ts with
    | none => none
    | some (k, ts) =>
      match memberValue? fuel ⟨true, true⟩ [.name, .value, .blockEnd] ts with
      | none => none
      | some (v, ts) => blockMembers? fuel p ((k, v) :: before) ts
  | _ + 1, p, before, .blockEnd :: ts => some (.object p before.reverse, ts)
  | _ + 1, _, _, _ => none

/-- The rest of a flow list after these items, the last one first; a comma stands before each item
but the first one. A name with a value is an item of one member. Where the name is left out, what
comes next in its place is passed over. -/
def flowItems? : Nat → Bool → Properties String → List (Node String) → List Token → NodeRead
  | 0, _, _, _, _ => none
  | _ + 1, _, p, before, .flowListEnd :: ts => some (.list p before.reverse, ts)
  | fuel + 1, isFirst, p, before, ts =>
    match flowPart? isFirst ts with
    | none => none
    | some (.flowListEnd :: ts) => some (.list p before.reverse, ts)
    | some (.name :: ts) =>
      let bounds := [.comma, .flowListEnd]
      let name :=
        if comesNext (.value :: bounds) ts then some (.empty, ts.tail)
        else node? fuel ⟨false, false⟩ ts
      match name with
      | none => none
      | some (k, ts) =>
        match memberValue? fuel ⟨false, false⟩ bounds ts with
        | none => none
        | some (v, ts) => flowItems? fuel false p (.object .none [(k, v)] :: before) ts
    | some ts =>
      match node? fuel ⟨false, false⟩ ts with
      | none => none
      | some (v, ts) => flowItems? fuel false p (v :: before) ts

/-- The rest of a flow object after these members, the last one first. -/
def flowMembers? : Nat → Bool → Properties String → List (Node String × Node String) →
    List Token → NodeRead
  | 0, _, _, _, _ => none
  | _ + 1, _, p, before, .flowObjectEnd :: ts => some (.object p before.reverse, ts)
  | fuel + 1, isFirst, p, before, ts =>
    match flowPart? isFirst ts with
    | none => none
    | some (.flowObjectEnd :: ts) => some (.object p before.reverse, ts)
    | some (.name :: ts) =>
      match nodeBefore? fuel ⟨false, false⟩ [.value, .comma, .flowObjectEnd] ts with
      | none => none
      | some (k, ts) =>
        match memberValue? fuel ⟨false, false⟩ [.comma, .flowObjectEnd] ts with
        | none => none
        | some (v, ts) => flowMembers? fuel false p ((k, v) :: before) ts
    | some ts =>
      match node? fuel ⟨false, false⟩ ts with
      | none => none
      | some (k, ts) => flowMembers? fuel false p ((k, .empty) :: before) ts

end

end

/-- The directives that come next, and what follows them. -/
def spanDirectives : List Token → List Directive × List Token
  | .directive d :: ts =>
    let (ds, ts) := spanDirectives ts
    (d :: ds, ts)
  | ts => ([], ts)

/-- Whether a document ends before these tokens. -/
def endsDocument : List Token → Bool
  | [] | .directive _ :: _ | .documentStart :: _ | .documentEnd :: _ => true
  | _ => false

/-- The document that the tokens are, if they hold any; they must not hold two. -/
def document? (ts : List Token) : Option (Option (Node String)) :=
  if ts.isEmpty then some none
  else do
    let (ds, after) := spanDirectives ts
    let handles ← handlesOf? ds
    let fuel := 2 * ts.length + 4
    let (n, rest) ← match after with
      | .documentStart :: after =>
        if endsDocument after then some (.empty, after)
        else node? handles fuel ⟨true, false⟩ after
      | after => if ds.isEmpty then node? handles fuel ⟨true, false⟩ after else none
    if rest.all (· == .documentEnd) then some (some n) else none

end PlanCourier.Yaml

import PlanCourier.Real.Binary64

/-!
# JSON values

A JSON value as data. The members of an object stand in a list; in the normal form they are in
order of their names, each name once, and `ofMembers` builds that form: of two members with one name
the later one stays.

Main statements:

- `lookup_insertMember`: a name looked up after an insertion gives the inserted value, and any
  other name what it gave before;
- the instance `DecidableEq Json`: equality of values is decidable.
-/

namespace PlanCourier

open PlanCourier.Real

/-- A number as a JSON text gives it: an integer that fits 64 bits, or a real number. -/
inductive Number where
  | whole (value : Int)
  | real (value : Binary64)
  deriving DecidableEq, Repr

/-- A JSON value. -/
inductive Json where
  | null
  | bool (value : Bool)
  | number (value : Number)
  | text (value : String)
  | list (items : List Json)
  | object (members : List (String × Json))
  deriving Repr, Inhabited

namespace Json

mutual

def decEq : (a b : Json) → Decidable (a = b)
  | .null, .null => isTrue rfl
  | .bool a, .bool b => decidable_of_iff (a = b) (by simp)
  | .number a, .number b => decidable_of_iff (a = b) (by simp)
  | .text a, .text b => decidable_of_iff (a = b) (by simp)
  | .list a, .list b => have := decEqItems a b; decidable_of_iff (a = b) (by simp)
  | .object a, .object b => have := decEqMembers a b; decidable_of_iff (a = b) (by simp)
  | .null, .bool _ | .null, .number _ | .null, .text _ | .null, .list _ | .null, .object _
  | .bool _, .null | .bool _, .number _ | .bool _, .text _ | .bool _, .list _ | .bool _, .object _
  | .number _, .null | .number _, .bool _ | .number _, .text _ | .number _, .list _
  | .number _, .object _ | .text _, .null | .text _, .bool _ | .text _, .number _
  | .text _, .list _ | .text _, .object _ | .list _, .null | .list _, .bool _ | .list _, .number _
  | .list _, .text _ | .list _, .object _ | .object _, .null | .object _, .bool _
  | .object _, .number _ | .object _, .text _ | .object _, .list _ => isFalse (by simp)

def decEqItems : (a b : List Json) → Decidable (a = b)
  | [], [] => isTrue rfl
  | [], _ :: _ => isFalse (by simp)
  | _ :: _, [] => isFalse (by simp)
  | a :: as, b :: bs =>
    have := decEq a b
    have := decEqItems as bs
    decidable_of_iff (a = b ∧ as = bs) (by simp)

def decEqMembers : (a b : List (String × Json)) → Decidable (a = b)
  | [], [] => isTrue rfl
  | [], _ :: _ => isFalse (by simp)
  | _ :: _, [] => isFalse (by simp)
  | (k, a) :: as, (l, b) :: bs =>
    have := decEq a b
    have := decEqMembers as bs
    decidable_of_iff (k = l ∧ a = b ∧ as = bs) (by simp [and_assoc])

end

instance : DecidableEq Json := decEq

/-- Puts a member in its place by name; a member of the same name is replaced. -/
def insertMember (name : String) (value : α) : List (String × α) → List (String × α)
  | [] => [(name, value)]
  | (k, v) :: rest =>
    if name < k then (name, value) :: (k, v) :: rest
    else if name = k then (name, value) :: rest
    else (k, v) :: insertMember name value rest

/-- Members in order of their names; of one name the last member stays. -/
def sortMembers (ms : List (String × α)) : List (String × α) :=
  ms.foldl (fun sorted (k, v) => insertMember k v sorted) []

def ofMembers (ms : List (String × Json)) : Json := .object (sortMembers ms)

mutual

/-- The value with the members of every object in order of their names, each name once. -/
def normal : Json → Json
  | .list items => .list (normalItems items)
  | .object ms => ofMembers (normalMembers ms)
  | v => v

def normalItems : List Json → List Json
  | [] => []
  | v :: rest => normal v :: normalItems rest

def normalMembers : List (String × Json) → List (String × Json)
  | [] => []
  | (k, v) :: rest => (k, normal v) :: normalMembers rest

end

mutual

/-- How deeply lists and objects are nested. -/
def depth : Json → Nat
  | .list items => depthItems items + 1
  | .object ms => depthMembers ms + 1
  | _ => 0

def depthItems : List Json → Nat
  | [] => 0
  | v :: rest => max (depth v) (depthItems rest)

/-- The greatest `depth` of a member's value. -/
def depthMembers : List (String × Json) → Nat
  | [] => 0
  | (_, v) :: rest => max (depth v) (depthMembers rest)

end

/-- The value of an object's member; none for any other value. -/
def get? (v : Json) (name : String) : Option Json :=
  match v with
  | .object ms => ms.lookup name
  | _ => none

def asText? : Json → Option String
  | .text s => some s
  | _ => none

def asList? : Json → Option (List Json)
  | .list items => some items
  | _ => none

def isObject : Json → Bool
  | .object _ => true
  | _ => false

def ofInt (i : Int) : Json := .number (.whole i)

def ofNat (n : Nat) : Json := .number (.whole n)

def ofOption (f : α → Json) : Option α → Json
  | none => .null
  | some a => f a

theorem lookup_insertMember (name k : String) (value : α) (ms : List (String × α)) :
    (insertMember name value ms).lookup k = if k = name then some value else ms.lookup k := by
  induction ms with
  | nil =>
    by_cases h : k = name
    · simp [insertMember, h]
    · simp [insertMember, List.lookup_cons, h, beq_false_of_ne h]
  | cons m rest ih =>
    obtain ⟨l, v⟩ := m
    simp only [insertMember]
    by_cases h : k = name
    · subst h
      split
      next => simp
      next =>
        split
        next => simp
        next hne => simp [List.lookup_cons, beq_false_of_ne hne, ih]
    · split
      next => simp [List.lookup_cons, beq_false_of_ne h]
      next =>
        split
        next he => subst he; simp [List.lookup_cons, beq_false_of_ne h]
        next => simp [List.lookup_cons, h, ih]

end Json

end PlanCourier

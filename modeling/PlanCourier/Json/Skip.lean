import PlanCourier.Json.Reader

/-!
# Passing over JSON values

A value that nobody asks for is passed over by its grammar alone: a number may be of any size, and
an escape may give half of a surrogate pair, for neither is ever evaluated.

Main statement: `skipString_of_readString`, a string that can be read is passed over up to the same
place.
-/

namespace PlanCourier.Json

/-- The text after a string whose opening quote was passed. -/
def skipString : List Char → Option (List Char)
  | [] => none
  | '"' :: rest => some rest
  | '\\' :: 'u' :: a :: b :: c :: d :: rest =>
    if (hexWord? a b c d).isSome then skipString rest else none
  | '\\' :: c :: rest => if (shortEscape? c).isSome then skipString rest else none
  | c :: rest => if c.toNat < 0x20 ∨ c = '\\' then none else skipString rest

def skipNumber (cs : List Char) : Option (List Char) := do
  let cs := match cs with
    | '-' :: rest => rest
    | cs => cs
  let (_, cs) ← readWhole cs
  let (_, cs) ← readFraction cs
  let (_, cs) ← readExponent cs
  return cs

mutual

/-- The text after the value at its start. Each call takes one of `fuel`, of which a text needs no
more than twice its length. -/
def skipValueWithin : Nat → List Char → Option (List Char)
  | 0, _ => none
  | fuel + 1, cs =>
    match skipGap cs with
    | 'n' :: 'u' :: 'l' :: 'l' :: rest => some rest
    | 't' :: 'r' :: 'u' :: 'e' :: rest => some rest
    | 'f' :: 'a' :: 'l' :: 's' :: 'e' :: rest => some rest
    | '"' :: rest => skipString rest
    | '[' :: rest =>
      match skipGap rest with
      | ']' :: rest => some rest
      | rest => skipItems fuel rest
    | '\x7b' :: rest =>
      match skipGap rest with
      | '\x7d' :: rest => some rest
      | rest => skipMembers fuel rest
    | cs => skipNumber cs

/-- The text after the items of a list, of which there is at least one. -/
def skipItems : Nat → List Char → Option (List Char)
  | 0, _ => none
  | fuel + 1, cs =>
    match skipValueWithin fuel cs with
    | none => none
    | some rest =>
      match skipGap rest with
      | ',' :: rest => skipItems fuel rest
      | ']' :: rest => some rest
      | _ => none

/-- The text after the members of an object, of which there is at least one. -/
def skipMembers : Nat → List Char → Option (List Char)
  | 0, _ => none
  | fuel + 1, cs =>
    match skipGap cs with
    | '"' :: rest =>
      match (skipString rest).map skipGap with
      | some (':' :: rest) =>
        match (skipValueWithin fuel rest).map skipGap with
        | some (',' :: rest) => skipMembers fuel rest
        | some ('\x7d' :: rest) => some rest
        | _ => none
      | _ => none
    | _ => none

end

/-- The text after the value at its start. -/
def skipValue (cs : List Char) : Option (List Char) := skipValueWithin (2 * cs.length + 2) cs

theorem skipString_of_readString {cs s rest : List Char} (h : readString cs = some (s, rest)) :
    skipString cs = some rest := by
  fun_induction readString cs generalizing s rest <;> simp_all [skipString] <;> grind

end PlanCourier.Json

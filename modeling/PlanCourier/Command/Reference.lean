import PlanCourier.Text.Cut
import PlanCourier.Text.Decimal

/-!
# References on the command line

How a parameter and a problem of the public collections are written in one word: a name, an equals
sign and a value; a domain's id, a slash, and the problem's name or id.

Main statement: `Assignment.read_eq_ok`, what is read as a parameter, and which parameter it is.
-/

namespace PlanCourier

open PlanCourier.Text

namespace Assignment

/-- Why a word is no parameter with a value. -/
inductive Fault where
  | noSign (word : String)
  | noName (word : String)
  deriving DecidableEq, Repr

def Fault.message : Fault → String
  | .noSign word => "expected NAME=VALUE, got '" ++ word ++ "'"
  | .noName word => "empty parameter name in '" ++ word ++ "'"

/-- Reads a parameter and its value: the name stands before the first equals sign, with or without
blanks around it, and all behind the sign is the value. -/
def read (word : String) : Except Fault (String × String) :=
  match cut '=' word.toList with
  | none => .error (.noSign word)
  | some (name, value) =>
    if allBlank name then .error (.noName word)
    else .ok (String.ofList (trim name), String.ofList value)

theorem read_eq_ok {word name value : String} :
    read word = .ok (name, value) ↔ ∃ padded, word.toList = padded ++ '=' :: value.toList ∧
      '=' ∉ padded ∧ allBlank padded = false ∧ name = String.ofList (trim padded) := by
  unfold read
  split
  next h =>
    rw [cut_eq_none_iff] at h
    constructor
    · simp
    · rintro ⟨padded, hw, -⟩
      exact absurd (hw ▸ by simp) h
  next before after h =>
    obtain ⟨hw, hb⟩ := cut_eq_some_iff.1 h
    constructor
    · intro hr
      split at hr
      next => simp at hr
      next hn =>
        simp only [Except.ok.injEq, Prod.mk.injEq] at hr
        obtain ⟨rfl, rfl⟩ := hr
        exact ⟨before, by simpa using hw, hb, by simpa using hn, rfl⟩
    · rintro ⟨padded, hw', hp, hn, rfl⟩
      have := cut_eq_some_iff.2 ⟨hw', hp⟩
      rw [h] at this
      simp only [Option.some.injEq, Prod.mk.injEq] at this
      obtain ⟨rfl, rfl⟩ := this
      simp [hn]

end Assignment

/-- A problem of a domain in the public collections, by its name or its id. -/
structure ProblemReference where
  domain : Int
  problem : String
  deriving DecidableEq, Repr

namespace ProblemReference

/-- Why a word names no problem. -/
inductive Fault where
  | noSlash (word : String)
  /-- What stands before the slash is no id. -/
  | badDomain (domain : String) (cause : Cause)
  deriving DecidableEq, Repr

def Fault.message : Fault → String
  | .noSlash word => "expected DOMAIN_ID/PROBLEM, got '" ++ word ++ "'"
  | .badDomain domain _ => "'" ++ domain ++ "' is not a domain id"

def Fault.causes : Fault → List String
  | .noSlash _ => []
  | .badDomain _ cause => [cause.message]

/-- Reads a reference: the domain's id stands before the first slash. -/
def read (word : String) : Except Fault ProblemReference :=
  match cut '/' word.toList with
  | none => .error (.noSlash word)
  | some (domain, problem) =>
    match readInteger .signed64 domain with
    | .ok id => .ok ⟨id, String.ofList problem⟩
    | .error cause => .error (.badDomain (String.ofList domain) cause)

end ProblemReference

end PlanCourier

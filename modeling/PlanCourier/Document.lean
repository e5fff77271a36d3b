import PlanCourier.Fault
import PlanCourier.Text.LowerCase

/-!
# Planning documents

A document is classified by its text as a domain or a problem, and a pair of two different
documents is chosen for a solve: the ones that were used last where they are still there, else the
first of the best kind.

Main statement: `pick_mem`, what is picked is one of the choices.
-/

namespace PlanCourier

/-- What a document holds, as far as its text tells. -/
inductive DocumentKind where
  | domain
  | problem
  | unknown
  deriving DecidableEq, Repr

structure Document where
  id : String
  text : String
  kind : DocumentKind
  deriving DecidableEq, Repr

namespace Document

/-- Whether `mark` stands somewhere in the text. -/
def holds (mark : List Char) : List Char → Bool
  | [] => mark.isEmpty
  | c :: rest => mark.isPrefixOf (c :: rest) || holds mark rest

/-- The kind of a text, by the marks `(domain` and `(problem` in any case; the first one counts
more. -/
def classify (text : String) : DocumentKind :=
  let t := Text.lower text.toList
  if holds "(domain".toList t then .domain
  else if holds "(problem".toList t then .problem
  else .unknown

def of (id text : String) : Document := ⟨id, text, classify text⟩

def arranged (kinds : List DocumentKind) (ds : List Document) : List Document :=
  kinds.flatMap fun k => ds.filter (·.kind == k)

/-- The documents with domains first and problems last. -/
def domainChoices (ds : List Document) : List Document :=
  arranged [.domain, .unknown, .problem] ds

/-- The documents with problems first and domains last. -/
def problemChoices (ds : List Document) : List Document :=
  arranged [.problem, .unknown, .domain] ds

/-- The first choice with the wanted id, or else the first choice. -/
def pick (wanted : Option String) (choices : List Document) : Option Document :=
  (wanted.bind fun id => choices.find? (·.id == id)).or choices.head?

/-- The fault of documents without a pair. -/
def incomplete (ds : List Document) : DocumentFault :=
  .incomplete (if ds.isEmpty then "no documents" else ", ".intercalate (ds.map (·.id)))

/-- A domain and a problem with different ids, the ones used last where they are still there. -/
def selectPair (ds : List Document) (lastDomain lastProblem : Option String) :
    Except DocumentFault (Document × Document) :=
  match pick lastDomain (domainChoices ds) with
  | none => .error (incomplete ds)
  | some d =>
    match pick lastProblem ((problemChoices ds).filter (·.id != d.id)) with
    | none => .error (incomplete ds)
    | some p => .ok (d, p)

/-- Reads documents one after another by their ids. -/
def load {m : Type → Type} [Monad m] (read : String → m (Except DocumentFault String)) :
    List String → m (Except DocumentFault (List Document))
  | [] => return .ok []
  | id :: rest => do
    match ← read id with
    | .error e => return .error e
    | .ok text => return (← load read rest).map (of id text :: ·)

theorem pick_mem {wanted : Option String} {choices : List Document} {d : Document}
    (h : pick wanted choices = some d) : d ∈ choices := by
  unfold pick at h
  cases hw : (wanted.bind fun id => choices.find? (·.id == id)) with
  | none => rw [hw] at h; exact List.mem_of_mem_head? h
  | some e =>
    rw [hw] at h
    obtain rfl : e = d := by simpa using h
    obtain ⟨id, -, hf⟩ := Option.bind_eq_some_iff.1 hw
    exact List.mem_of_find?_eq_some hf

end Document

end PlanCourier

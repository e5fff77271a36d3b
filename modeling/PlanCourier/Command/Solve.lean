import PlanCourier.Command.Basic
import PlanCourier.Command.Conclusion
import PlanCourier.Document.Source
import PlanCourier.Http.Service
import PlanCourier.Package.Catalog
import PlanCourier.Session
import PlanCourier.Solve.Pursuit

/-!
# The command `solve`

A task is put together from a problem of the public collections, from two addresses, or from two
documents; the parameters are settled with the package's listing, or sent as they are if there is no
listing; then the task is solved, and reported on.

Main statement: `mem_documentIds`, the documents that are read are the files, the domain and the
problem.
-/

namespace PlanCourier

structure CommandContext where
  config : Config
  session : Session

namespace ProblemReference

def means (r : ProblemReference) (p : ProblemEntry) : Bool :=
  p.name == r.problem || p.id.any fun id => Text.integerText id == r.problem

end ProblemReference

namespace Notice

/-- The lines of output that show a notice, and the lines of messages. -/
def shown (json : Bool) : Notice → List String × List String
  | .success message => ([], ["✓ " ++ message])
  | .error message => ([], ["✗ " ++ message])
  | .info message => ([], ["… " ++ message])
  | .view (.diagnostic text) => (if json then [] else ["Planner diagnostic:", text], [])
  | .view v => (if json then [] else [v.text], [])

end Notice

namespace SolveOrder

variable {m : Type → Type} [Monad m]

/-- The ids with one more, if it is named and is not among them. -/
def withId (ids : List String) : Option String → List String
  | none => ids
  | some id => if ids.contains id then ids else ids ++ [id]

/-- The ids of the documents to read: the files, then domain and problem. -/
def documentIds (o : SolveOrder) : List String := withId (withId o.files o.domain) o.problem

/-- The request for a problem of the public collections. -/
def listedRequest (h : Host m) (api word : String) : m (Except CommandFault Request) :=
  match ProblemReference.read word with
  | .error fault => return .error (.reference fault)
  | .ok r => do
    match ← Browse.problems (CollectionService.overHttp h.send api) r.domain with
    | .error cause => return .error (.unlisted r.domain cause)
    | .ok problems =>
      match problems.find? r.means with
      | none => return .error (.noProblem r)
      | some p => return .ok p.solveRequest

def documentRequest (h : Host m) (o : SolveOrder) : m (Except CommandFault Request) := do
  match ← Document.load (Document.read h.files ".") o.documentIds with
  | .error fault => return .error (.document fault)
  | .ok documents =>
    match Document.selectPair documents o.domain o.problem with
    | .error fault => return .error (.document fault)
    | .ok (domain, problem) => return .ok (.ofDocuments domain.text problem.text)

/-- The request without its parameters. -/
def request (h : Host m) (api : String) (o : SolveOrder) : m (Except CommandFault Request) :=
  match o.listed with
  | some word => listedRequest h api word
  | none =>
    if o.hosted then
      match o.domain, o.problem with
      | some domain, some problem => return .ok (.ofUrls domain problem)
      | _, _ => return .error .halfHosted
    else o.documentRequest h

/-- The user's values in order of their names; of one name the last value counts. -/
def values (o : SolveOrder) : Values := Json.sortMembers o.parameters

/-- The values that are sent, for what settling the user's values with the listing gave. -/
def valuesSent (o : SolveOrder) : Except SolveFault Values → Except SolveFault Values
  | .error (.listing _) => .ok o.values
  | settled => settled

def tell (h : Host m) (json : Bool) (n : Notice) : m Unit := do
  Conclusion.writeAll h.out (n.shown json).1
  Conclusion.writeAll h.err (n.shown json).2

def conclude (r : SolveReport) : Conclusion :=
  match r.outcome with
  | .succeeded _ | .cancelled => .reported (.solve r)
  | .failed _ | .timedOut _ => ⟨some (.solve r), some (.unsolved r)⟩

/-- Solves a request that has its parameters. -/
def pursue (h : Host m) (c : CommandContext) (json : Bool) (package : String) (started : Moment)
    (request : Request) : m Conclusion := do
  let service := SolverService.overHttp h.send c.session.baseUrl
  let solver : Solver := ⟨service.base, c.config.service.adaptor, c.config.poll.policy⟩
  match ← (Pursuit.mk solver service h.wait (tell h json)).solve package request with
  | .error cause => return .failed (.noOutcome cause)
  | .ok outcome =>
    return conclude ⟨package, c.session.baseUrl, outcome, View.ofOutcome outcome, started,
      ← h.now⟩

def carryOut (h : Host m) (c : CommandContext) (json : Bool) (o : SolveOrder) : m Conclusion := do
  let started ← h.now
  let package := o.package.getD c.config.service.defaultPackage
  match ← o.request h c.config.catalog.apiUrl with
  | .error fault => return .failed fault
  | .ok request =>
    let service := SolverService.overHttp h.send c.session.baseUrl
    let (settled, _) ← Catalog.empty.resolve service.listing package o.values
    match o.valuesSent settled with
    | .error fault => return .failed (.package fault)
    | .ok values => pursue h c json package started (request.withParameters values)

theorem mem_withId {ids : List String} {new : Option String} {id : String} :
    id ∈ withId ids new ↔ id ∈ ids ∨ new = some id := by
  cases new with
  | none => simp [withId]
  | some n =>
    simp only [withId, Option.some.injEq, List.contains_iff_mem]
    split
    next h => grind
    next => simp [eq_comm]

theorem mem_documentIds {o : SolveOrder} {id : String} :
    id ∈ o.documentIds ↔ id ∈ o.files ∨ o.domain = some id ∨ o.problem = some id := by
  simp [documentIds, mem_withId, or_assoc]

end SolveOrder

end PlanCourier

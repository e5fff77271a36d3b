import PlanCourier.Collection.Browser
import PlanCourier.Http.Exchange
import PlanCourier.Package.Manifest
import PlanCourier.Solve.Request

/-!
# Services over HTTP

The two services as their addresses and records: the solver, which lists its packages, takes
requests, tells the state of tasks and validates problems; and the collections, whose answers hold
their records under `result`.
-/

namespace PlanCourier

/-- A planning service. -/
structure SolverService (m : Type → Type) where
  /-- The address of the service. -/
  base : String
  listing : m (Except ServiceFault Listing)
  submit : (package : String) → Request → m (Except ServiceFault Json)
  check : (handle adaptor : String) → m (Except ServiceFault Json)
  /-- Solves a benchmark problem and validates the plan. -/
  validate : (problem : Int) → m (Except ServiceFault Json)

/-- A value read as a record; one that does not fit is a fault of the answer from this address. -/
def Decode.fromUrl (decode : Decode α) (url : String) (v : Json) : Except ServiceFault α :=
  match decode v with
  | .ok a => .ok a
  | .error m => .error (.decode url m.message)

namespace HttpRequest

/-- The request for a solver's packages. -/
def packages (base : String) : HttpRequest := .get (Url.join base "package")

/-- The request that submits a task; the members of its body are in order of their names. -/
def submission (base package : String) (r : Request) : HttpRequest :=
  .post (Url.solve base package) r.body.normal

/-- The request for the state of a task. -/
def statusCheck (base handle adaptor : String) : HttpRequest :=
  .post (Url.poll base handle) (.object [("adaptor", .text adaptor)])

def validation (base : String) (problem : Int) : HttpRequest :=
  .post (Url.join base "solve-and-validate") (.object [("probID", .ofInt problem)])

end HttpRequest

variable {m : Type → Type} [Monad m] (send : HttpRequest → m Exchange)

namespace SolverService

def overHttp (url : String) : SolverService m :=
  let base := Url.trimBase url
  { base
    listing := do
      let r := HttpRequest.packages base
      return (← r.ask send).bind (Listing.decode.fromUrl r.url)
    submit := fun package request => (HttpRequest.submission base package request).ask send
    check := fun handle adaptor => (HttpRequest.statusCheck base handle adaptor).ask send
    validate := fun problem => (HttpRequest.validation base problem).ask send }

end SolverService

namespace CollectionService

def records (decode : Decode α) (url : String) (answer : Json) :
    Except ServiceFault (List α) :=
  match (answer.get? "result").bind Json.asList? with
  | some vs => (Decode.list decode).fromUrl url (.list vs)
  | none => .error (.decode url "missing result array")

def fetch (api : String) (decode : Decode α) (path : String) :
    m (Except ServiceFault (List α)) := do
  let r := HttpRequest.get (Url.join api path)
  return (← r.ask send).bind (records decode r.url)

def overHttp (api : String) : CollectionService m :=
  { collections := fetch send api Collection.decode "collections"
    domains := fetch send api DomainEntry.decode "domains"
    problems := fun domain =>
      fetch send api ProblemEntry.decode ("problems/" ++ Text.integerText domain) }

end CollectionService

end PlanCourier

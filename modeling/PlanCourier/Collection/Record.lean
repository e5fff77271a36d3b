import PlanCourier.Json.Reader
import PlanCourier.Json.Record
import PlanCourier.Solve.Request

/-!
# Collections of planning problems

The records of a public collection of planning problems: collections name groups of domains, a
domain has problems, and a problem gives the addresses of its two documents. The members of a
collection come as a list of ids or as a text that holds one.
-/

namespace PlanCourier

open PlanCourier.Real PlanCourier.Text

/-- A named group of domains. -/
structure Collection where
  id : Option Int
  name : String
  description : String
  /-- The ids of its domains as they were delivered. -/
  domainSet : Json
  deriving DecidableEq, Repr

structure DomainEntry where
  id : Int
  name : String
  description : String
  deriving DecidableEq, Repr

/-- A problem with the addresses of its documents and known bounds on the length of its plans. -/
structure ProblemEntry where
  id : Option Int
  name : String
  domainUrl : String
  problemUrl : String
  upperBound : Option Binary64
  lowerBound : Option Binary64
  deriving DecidableEq, Repr

namespace Collection

/-- The value as a signed integer of 64 bits, if it is one. -/
def id? : Json → Option Int
  | .number (.whole i) => if Span.signed64.holds i then some i else none
  | _ => none

/-- The ids of a list that holds nothing else. -/
def allIds : List Json → Option (List Int)
  | [] => some []
  | v :: rest => do
    let i ← id? v
    let is ← allIds rest
    return i :: is

/-- The ids that a delivered set names: in a list, what is no id is passed over; a text has to hold
a list of ids and nothing else. -/
def idsOf : Json → List Int
  | .list items => items.filterMap id?
  | .text s => (((Json.read? s).bind Json.asList?).bind allIds).getD []
  | _ => []

def domainIds (c : Collection) : List Int := idsOf c.domainSet

/-- Whether the domain belongs to the collection. -/
def contains (c : Collection) (id : Int) : Bool := c.domainIds.contains id

def decode : Decode Collection :=
  Decode.record "Collection" 4 fun s =>
    Collection.mk <$> s.optional 0 "collection_id" Decode.int64
      <*> s.required 1 "collection_name" Decode.text
      <*> s.defaulted 2 "description" Decode.text ""
      <*> s.defaulted 3 "domain_set" Decode.any .null

def toJson (c : Collection) : Json :=
  .ofMembers [("collection_id", .ofOption .ofInt c.id), ("collection_name", .text c.name),
    ("description", .text c.description), ("domain_set", c.domainSet)]

end Collection

namespace DomainEntry

def decode : Decode DomainEntry :=
  Decode.record "DomainEntry" 3 fun s =>
    DomainEntry.mk <$> s.required 0 "domain_id" Decode.int64
      <*> s.required 1 "domain_name" Decode.text
      <*> s.defaulted 2 "description" Decode.text ""

def toJson (d : DomainEntry) : Json :=
  .ofMembers [("domain_id", .ofInt d.id), ("domain_name", .text d.name),
    ("description", .text d.description)]

end DomainEntry

namespace ProblemEntry

def decode : Decode ProblemEntry :=
  Decode.record "ProblemEntry" 6 fun s =>
    ProblemEntry.mk <$> s.optional 0 "problem_id" Decode.int64
      <*> s.required 1 "problem" Decode.text
      <*> s.required 2 "domain_url" Decode.text
      <*> s.required 3 "problem_url" Decode.text
      <*> s.optional 4 "upper_bound" Decode.real
      <*> s.optional 5 "lower_bound" Decode.real

def boundJson (x : Binary64) : Json := .number (.real x)

def toJson (p : ProblemEntry) : Json :=
  .ofMembers [("problem_id", .ofOption .ofInt p.id), ("problem", .text p.name),
    ("domain_url", .text p.domainUrl), ("problem_url", .text p.problemUrl),
    ("upper_bound", .ofOption boundJson p.upperBound),
    ("lower_bound", .ofOption boundJson p.lowerBound)]

/-- A bound in words. -/
def boundLabel : Option Binary64 → String
  | none => "unknown"
  | some x => String.ofList (Layout.plain.render x)

def upperLabel (p : ProblemEntry) : String := boundLabel p.upperBound

def lowerLabel (p : ProblemEntry) : String := boundLabel p.lowerBound

/-- A request that has the service fetch both documents itself. -/
def solveRequest (p : ProblemEntry) : Request := .ofUrls p.domainUrl p.problemUrl

end ProblemEntry

end PlanCourier

import PlanCourier.Json.Printer

/-!
# Solve requests

A request holds the two planning documents, or the addresses of two hosted ones, and named
parameters for the solver. The request is sent as one object: the documents under `domain` and
`problem`, the mark `is_url` where they are addresses, and the parameters by name. The names of
these three fields are therefore reserved, and a parameter of such a name is dropped.

Main statements:

- `domain_withParameter` and its companions: parameters touch neither the documents nor the mark;
- `lookup_withParameter`: the last value given to a name is the one that is kept.
-/

namespace PlanCourier

/-- A domain and a problem for a solver package, with parameters in order of their names. -/
structure Request where
  /-- The domain document, or its address. -/
  domain : String
  /-- The problem document, or its address. -/
  problem : String
  /-- Whether the two texts are addresses of hosted documents. -/
  hosted : Bool
  parameters : List (String × String)
  deriving DecidableEq, Repr

namespace Request

def ofDocuments (domain problem : String) : Request := ⟨domain, problem, false, []⟩

/-- A request with the addresses of two hosted documents. -/
def ofUrls (domain problem : String) : Request := ⟨domain, problem, true, []⟩

/-- The names that the request's own fields have. -/
def reserved : List String := ["domain", "problem", "is_url"]

/-- The request with a parameter; a reserved name changes nothing. -/
def withParameter (r : Request) (name value : String) : Request :=
  if reserved.contains name then r
  else { r with parameters := Json.insertMember name value r.parameters }

/-- The request with several parameters, one after another. -/
def withParameters (r : Request) (ps : List (String × String)) : Request :=
  ps.foldl (fun r (name, value) => r.withParameter name value) r

/-- The request as the object that is sent: documents, mark, parameters. -/
def body (r : Request) : Json :=
  .object <| ("domain", .text r.domain) :: ("problem", .text r.problem) ::
    ((if r.hosted then [("is_url", .bool true)] else []) ++
      r.parameters.map fun (name, value) => (name, .text value))

@[simp] theorem domain_withParameter (r : Request) (n v : String) :
    (r.withParameter n v).domain = r.domain := by
  unfold withParameter; split <;> rfl

@[simp] theorem problem_withParameter (r : Request) (n v : String) :
    (r.withParameter n v).problem = r.problem := by
  unfold withParameter; split <;> rfl

@[simp] theorem hosted_withParameter (r : Request) (n v : String) :
    (r.withParameter n v).hosted = r.hosted := by
  unfold withParameter; split <;> rfl

theorem lookup_withParameter (r : Request) (n v k : String) :
    (r.withParameter n v).parameters.lookup k =
      if reserved.contains n = false ∧ k = n then some v else r.parameters.lookup k := by
  unfold withParameter
  cases h : reserved.contains n <;> simp [Json.lookup_insertMember]

end Request

end PlanCourier

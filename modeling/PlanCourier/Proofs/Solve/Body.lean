import PlanCourier.Http.Service
import PlanCourier.Proofs.Json.Members
import PlanCourier.Proofs.Json.ReadBack

/-!
# The body of a request

A request is made from two documents or from two addresses, and then parameters are added to it, one
at a time or several at once. The parameters stand in the body beside the request's own fields. No
parameter ever has the name of such a field: adding one keeps that, whatever its name is. So every
name stands in the body once, the documents are those that the request was made from, and of a
parameter the last value counts. The text of the body reads as the value that is posted, and the
body determines the request.

Main statements:

- `FreeOfReserved.withParameters`: parameters never take a reserved name;
- `lookup_withParameters`: of a parameter the last value counts;
- `lookup_fields`: what a name of the body leads to;
- `body_of_built_request`: all of this for every request that can be made.
-/

namespace PlanCourier

namespace Request

open Json (Ascending)

variable {r r' : Request}

/-- A call that adds parameters to a request. -/
inductive Addition where
  | one (name value : String)
  | several (parameters : List (String × String))

/-- The names and values that a call adds, in their order. -/
def Addition.named : Addition → List (String × String)
  | .one name value => [(name, value)]
  | .several parameters => parameters

def Addition.addTo (r : Request) : Addition → Request
  | .one name value => r.withParameter name value
  | .several parameters => r.withParameters parameters

/-- The request that two documents, or two hosted ones, and calls make. -/
def build (hosted : Bool) (domain problem : String) (calls : List Addition) : Request :=
  calls.foldl Addition.addTo (if hosted then ofUrls domain problem else ofDocuments domain problem)

/-- The value that calls give to a name last. -/
def lastValue (calls : List Addition) (name : String) : Option String :=
  (calls.flatMap Addition.named).reverse.lookup name

/-! ## Adding parameters -/

/-- The parameters stand in order of their names, and none of them has a reserved name. -/
structure FreeOfReserved (r : Request) : Prop where
  ascending : Ascending r.parameters
  free : ∀ name, reserved.contains name = true → r.parameters.lookup name = none

theorem FreeOfReserved.withParameter (h : FreeOfReserved r) (name value : String) :
    FreeOfReserved (r.withParameter name value) := by
  constructor
  · unfold Request.withParameter
    split
    · exact h.ascending
    · exact Json.ascending_insertMember h.ascending
  · intro k hk
    rw [lookup_withParameter, if_neg, h.free k hk]
    -- a reserved name is none that is taken
    rintro ⟨hname, rfl⟩
    rw [hk] at hname
    cases hname

theorem withParameters_cons (r : Request) (name value : String) (ps : List (String × String)) :
    r.withParameters ((name, value) :: ps) = (r.withParameter name value).withParameters ps := rfl

theorem FreeOfReserved.withParameters (h : FreeOfReserved r) (ps : List (String × String)) :
    FreeOfReserved (r.withParameters ps) := by
  induction ps generalizing r with
  | nil => exact h
  | cons p rest ih =>
    rw [withParameters_cons]
    exact ih (h.withParameter p.1 p.2)

theorem documents_withParameters (r : Request) (ps : List (String × String)) :
    (r.withParameters ps).domain = r.domain ∧ (r.withParameters ps).problem = r.problem ∧
      (r.withParameters ps).hosted = r.hosted := by
  induction ps generalizing r with
  | nil => exact ⟨rfl, rfl, rfl⟩
  | cons p rest ih =>
    obtain ⟨hdomain, hproblem, hhosted⟩ := ih (r.withParameter p.1 p.2)
    rw [withParameters_cons, hdomain, hproblem, hhosted]
    exact ⟨domain_withParameter r p.1 p.2, problem_withParameter r p.1 p.2,
      hosted_withParameter r p.1 p.2⟩

theorem lookup_withParameters (r : Request) (ps : List (String × String)) {name : String}
    (hname : reserved.contains name = false) :
    (r.withParameters ps).parameters.lookup name =
      (ps.reverse.lookup name).or (r.parameters.lookup name) := by
  induction ps generalizing r with
  | nil => rfl
  | cons p rest ih =>
    obtain ⟨k, v⟩ := p
    rw [withParameters_cons, ih, lookup_withParameter, List.reverse_cons, List.lookup_append,
      Option.or_assoc]
    by_cases hk : name = k
    · subst hk
      rw [if_pos ⟨hname, rfl⟩]
      simp
    · simp [hk, List.lookup_cons, beq_false_of_ne hk]

theorem foldl_addTo (r : Request) (calls : List Addition) :
    calls.foldl Addition.addTo r = r.withParameters (calls.flatMap Addition.named) := by
  induction calls generalizing r with
  | nil => rfl
  | cons call rest ih =>
    have hcall : call.addTo r = r.withParameters call.named := by cases call <;> rfl
    rw [List.foldl_cons, ih, hcall, List.flatMap_cons]
    unfold withParameters
    rw [List.foldl_append]

/-! ## What stands in the body -/

def fields (r : Request) : List (String × Json) :=
  ("domain", .text r.domain) :: ("problem", .text r.problem) ::
    ((if r.hosted then [("is_url", .bool true)] else []) ++
      r.parameters.map fun (name, value) => (name, .text value))

theorem body_eq (r : Request) : r.body = .object r.fields := rfl

theorem numberless_body (r : Request) : Json.Numberless r.body := by
  refine .object fun m hm => ?_
  simp only [List.mem_cons, List.mem_append, List.mem_map] at hm
  obtain rfl | rfl | hm | ⟨p, -, rfl⟩ := hm
  · exact .text _
  · exact .text _
  · cases hhosted : r.hosted with
    | false => simp [hhosted] at hm
    | true =>
      obtain rfl : m = ("is_url", .bool true) := by simpa [hhosted] using hm
      exact .bool _
  · exact .text _

theorem depthMembers_map_text (ps : List (String × String)) :
    Json.depthMembers (ps.map fun (name, value) => (name, .text value)) = 0 := by
  induction ps with
  | nil => rfl
  | cons p ps ih => rw [List.map_cons, Json.depthMembers, ih]; rfl

theorem depth_body (r : Request) : r.body.depth = 1 := by
  have hparameters := depthMembers_map_text r.parameters
  rw [body_eq, Json.depth, fields]
  cases r.hosted with
  | true => simp [Json.depthMembers, Json.depth, hparameters]
  | false => simp [Json.depthMembers, Json.depth, hparameters]

theorem read?_compactText_body (r : Request) : Json.read? r.body.compactText = some r.body :=
  Json.read?_compactText r.numberless_body (by rw [depth_body]; decide)

theorem ofText?_compactText_body (r : Request) :
    Json.ofText? r.body.compactText = some r.body.normal := by
  rw [Json.ofText?, r.read?_compactText_body]
  rfl

theorem normal_body (r : Request) : r.body.normal = .object (Json.sortMembers r.fields) := by
  have hfields : Json.normalMembers r.fields = r.fields := by
    rw [Json.normalMembers_eq_map]
    cases hhosted : r.hosted <;> simp [fields, hhosted, Json.normal]
  rw [body_eq, Json.normal, hfields, Json.ofMembers]

theorem lookup_parameters_map (ps : List (String × String)) (name : String) :
    (ps.map fun (name, value) => (name, Json.text value)).lookup name =
      (ps.lookup name).map .text := by
  induction ps with
  | nil => rfl
  | cons p rest ih =>
    obtain ⟨k, v⟩ := p
    by_cases hk : name = k
    · simp [hk]
    · simp [List.lookup_cons, beq_false_of_ne hk, ih]

theorem lookup_fields (h : FreeOfReserved r) (name : String) :
    r.fields.lookup name =
      if name = "domain" then some (.text r.domain)
      else if name = "problem" then some (.text r.problem)
      else if name = "is_url" then if r.hosted then some (.bool true) else none
      else (r.parameters.lookup name).map .text := by
  unfold fields
  rw [List.lookup_cons, List.lookup_cons, List.lookup_append, lookup_parameters_map]
  by_cases hdomain : name = "domain"
  · simp [hdomain]
  by_cases hproblem : name = "problem"
  · simp [hproblem]
  by_cases hurl : name = "is_url"
  · -- no parameter stands in for a mark that is not set
    have hfree : r.parameters.lookup "is_url" = none := h.free _ rfl
    cases r.hosted <;> simp [hurl, hfree]
  · cases r.hosted <;> simp [hdomain, hproblem, hurl, List.lookup_cons, beq_false_of_ne]

theorem nodup_names_fields (h : FreeOfReserved r) : (r.fields.map (·.1)).Nodup := by
  have hnames : (r.parameters.map fun (name, value) => (name, Json.text value)).map (·.1) =
      r.parameters.map (·.1) := by simp
  have hunused : ∀ name, reserved.contains name = true → name ∉ r.parameters.map (·.1) := by
    intro name hname hmem
    obtain ⟨⟨k, v⟩, hv, rfl⟩ := List.mem_map.1 hmem
    have hfound := (Json.lookup_eq_some_iff_mem h.ascending).2 hv
    rw [h.free k hname] at hfound
    cases hfound
  have hdomain := hunused "domain" rfl
  have hproblem := hunused "problem" rfl
  have hurl := hunused "is_url" rfl
  unfold fields
  rw [List.map_cons, List.map_cons, List.map_append, hnames]
  cases r.hosted with
  | false => simpa [hdomain, hproblem] using h.ascending.nodup
  | true => simpa [hdomain, hproblem, hurl] using h.ascending.nodup

/-! ## What the body tells of the request -/

/-- The names of the body lead to all that the request is made of. -/
theorem eq_of_lookup_fields (h : FreeOfReserved r) (h' : FreeOfReserved r')
    (heq : ∀ name, r.fields.lookup name = r'.fields.lookup name) : r = r' := by
  have hfields : ∀ name, _ = _ := fun name =>
    (lookup_fields h name).symm.trans ((heq name).trans (lookup_fields h' name))
  have hdomain : r.domain = r'.domain := by simpa using hfields "domain"
  have hproblem : r.problem = r'.problem := by simpa using hfields "problem"
  have hhosted : r.hosted = r'.hosted := by
    have hurl := hfields "is_url"
    cases hr : r.hosted <;> cases hr' : r'.hosted <;> simp [hr, hr'] at hurl ⊢
  have hparameters : r.parameters = r'.parameters := by
    refine h.ascending.ext h'.ascending fun name => ?_
    cases hname : reserved.contains name with
    | true => rw [h.free name hname, h'.free name hname]
    | false =>
      have hne : name ≠ "domain" ∧ name ≠ "problem" ∧ name ≠ "is_url" := by
        simpa [reserved] using hname
      have hvalue := hfields name
      rw [if_neg hne.1, if_neg hne.2.1, if_neg hne.2.2, if_neg hne.1, if_neg hne.2.1,
        if_neg hne.2.2] at hvalue
      exact Option.map_injective (fun a b hab => Json.text.inj hab) hvalue
  cases r
  cases r'
  simp_all

theorem eq_of_normal_body (h : FreeOfReserved r) (h' : FreeOfReserved r')
    (heq : r.body.normal = r'.body.normal) : r = r' := by
  rw [normal_body, normal_body, Json.object.injEq] at heq
  refine eq_of_lookup_fields h h' fun name => ?_
  rw [← Json.lookup_sortMembers_of_nodup (nodup_names_fields h), heq,
    Json.lookup_sortMembers_of_nodup (nodup_names_fields h')]

theorem eq_of_compactText_body (h : FreeOfReserved r) (h' : FreeOfReserved r')
    (heq : r.body.compactText = r'.body.compactText) : r = r' := by
  refine eq_of_normal_body h h' ?_
  have hread := ofText?_compactText_body r
  rw [heq, ofText?_compactText_body r'] at hread
  exact (Option.some.inj hread).symm

/-! ## Requests that are built -/

variable (hosted : Bool) (domain problem : String) (calls : List Addition)

theorem build_eq : build hosted domain problem calls =
    (Request.mk domain problem hosted []).withParameters (calls.flatMap Addition.named) := by
  unfold build
  rw [foldl_addTo]
  cases hosted <;> rfl

theorem freeOfReserved_build : FreeOfReserved (build hosted domain problem calls) := by
  have hempty : FreeOfReserved ⟨domain, problem, hosted, []⟩ :=
    ⟨List.Pairwise.nil, fun _ _ => rfl⟩
  rw [build_eq]
  exact hempty.withParameters _

theorem lookup_fields_build (name : String) :
    (build hosted domain problem calls).fields.lookup name =
      if name = "domain" then some (.text domain)
      else if name = "problem" then some (.text problem)
      else if name = "is_url" then if hosted then some (.bool true) else none
      else (lastValue calls name).map .text := by
  obtain ⟨hdomain, hproblem, hhosted⟩ :=
    documents_withParameters ⟨domain, problem, hosted, []⟩ (calls.flatMap Addition.named)
  rw [lookup_fields (freeOfReserved_build hosted domain problem calls), build_eq, hdomain, hproblem,
    hhosted]
  cases hname : reserved.contains name with
  | true =>
    -- both sides name the request's own fields, whatever the calls give to such a name
    have hone : name = "domain" ∨ name = "problem" ∨ name = "is_url" := by
      simpa [reserved] using hname
    obtain rfl | rfl | rfl := hone <;> rfl
  | false => rw [lookup_withParameters _ _ hname, List.lookup_nil, Option.or_none, lastValue]

end Request

/-- The body of every request that can be made: from two documents or from two addresses, with any
calls that add parameters, whatever their names and values are.

No name stands in it twice. Its text reads as the body, member for member, and so as the value that
is posted, which has the same members in order of their names. The documents and the mark are those
the request was made with; every other name leads to the value that the calls give it last, and to
nothing where they give none. Requests whose bodies are equal, as texts or as values, are equal. -/
theorem body_of_built_request (hosted : Bool) (domain problem : String)
    (calls : List Request.Addition) :
    let r := Request.build hosted domain problem calls
    ∃ fields posted, r.body = .object fields ∧ r.body.normal = .object posted ∧
      (fields.map (·.1)).Nodup ∧ posted.Perm fields ∧ Json.Ascending posted ∧
      Json.read? r.body.compactText = some r.body ∧
      (∀ base package, Json.ofText? r.body.compactText =
        (HttpRequest.submission base package r).body) ∧
      (∀ name, r.body.get? name =
        if name = "domain" then some (.text domain)
        else if name = "problem" then some (.text problem)
        else if name = "is_url" then if hosted then some (.bool true) else none
        else (Request.lastValue calls name).map .text) ∧
      ∀ hosted' domain' problem' calls',
        let r' := Request.build hosted' domain' problem' calls'
        r.body.compactText = r'.body.compactText ∨ r.body.normal = r'.body.normal → r = r' := by
  intro r
  have hr : r.FreeOfReserved := Request.freeOfReserved_build hosted domain problem calls
  have hnodup := Request.nodup_names_fields hr
  refine ⟨r.fields, Json.sortMembers r.fields, rfl, r.normal_body, hnodup,
    Json.perm_sortMembers hnodup, Json.ascending_sortMembers _,
    r.read?_compactText_body, fun base package => r.ofText?_compactText_body,
    Request.lookup_fields_build hosted domain problem calls, ?_⟩
  intro hosted' domain' problem' calls' r' heq
  have hr' := Request.freeOfReserved_build hosted' domain' problem' calls'
  obtain htext | hvalue := heq
  · exact Request.eq_of_compactText_body hr hr' htext
  · exact Request.eq_of_normal_body hr hr' hvalue

example : (Request.build false "d" "p" [.one "domain" "x",
      .several [("search", "a"), ("is_url", "y")], .one "search" "b"]).body.compactText =
    "\x7b\"domain\":\"d\",\"problem\":\"p\",\"search\":\"b\"\x7d" := by
  decide

end PlanCourier

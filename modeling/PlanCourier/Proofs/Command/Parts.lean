import PlanCourier.Proofs.Command.Frame

/-!
# What commands leave as it is

A command waits, tells the user something, and asks two services: the solver at its base URL and the
collections at theirs. So it leaves as it is whatever these deeds leave as it is; only the command
that saves another base URL changes files besides. The lemmas go along the commands part by part,
for any view of the world.

Main statements:

- `HttpRequest.IsFor`: the requests that are made of the two services;
- `Command.keeps_execute`: what a command leaves as it is.
-/

namespace PlanCourier

open World (Keeps IgnoresFiles)

/-- The requests that are made of the collections at `api` and of the solver at `url`. -/
inductive HttpRequest.IsFor (api url : String) : HttpRequest → Prop
  | collections (path : String) : IsFor api url (.get (Url.join api path))
  | packages : IsFor api url (.packages (Url.trimBase url))
  | submission (package : String) (r : Request) :
    IsFor api url (.submission (Url.trimBase url) package r)
  | statusCheck (handle adaptor : String) :
    IsFor api url (.statusCheck (Url.trimBase url) handle adaptor)
  | validation (problem : Int) : IsFor api url (.validation (Url.trimBase url) problem)

/-- Waiting and asking the services at these addresses leave the view as it is. -/
structure World.Unmoved (view : World → β) (api url : String) : Prop where
  ask : ∀ r : HttpRequest, r.IsFor api url → Keeps view (r.ask host.send)
  wait : ∀ ms, Keeps view (host.wait ms)

open World (Unmoved)

variable {view : World → β} {api url : String}

/-! ## The services -/

section Services

variable (h : Unmoved view api url)
include h

theorem CollectionService.keeps_fetch {decode : Decode α} (path : String) :
    Keeps view (fetch World.host.send api decode path) :=
  (h.ask _ (.collections path)).bind fun _ => Keeps.pure _

theorem Browse.keeps_collections :
    Keeps view (collections (CollectionService.overHttp World.host.send api)) :=
  (CollectionService.keeps_fetch h _).bind fun _ => Keeps.pure _

theorem Browse.keeps_domains :
    Keeps view (domains (CollectionService.overHttp World.host.send api)) :=
  (CollectionService.keeps_fetch h _).bind fun _ => Keeps.pure _

theorem Browse.keeps_problems (domain : Int) :
    Keeps view (problems (CollectionService.overHttp World.host.send api) domain) :=
  (CollectionService.keeps_fetch h _).bind fun _ => Keeps.pure _

theorem SolverService.keeps_listing :
    Keeps view (overHttp World.host.send url).listing :=
  (h.ask _ .packages).bind fun _ => Keeps.pure _

theorem SolverService.keeps_submit (package : String) (request : Request) :
    Keeps view ((overHttp World.host.send url).submit package request) := by
  dsimp only [overHttp]
  exact h.ask _ (.submission package request)

theorem SolverService.keeps_check (handle adaptor : String) :
    Keeps view ((overHttp World.host.send url).check handle adaptor) := by
  dsimp only [overHttp]
  exact h.ask _ (.statusCheck handle adaptor)

theorem SolverService.keeps_validate (problem : Int) :
    Keeps view ((overHttp World.host.send url).validate problem) := by
  dsimp only [overHttp]
  exact h.ask _ (.validation problem)

end Services

/-- What a catalog that holds nothing makes of its listing. -/
theorem Catalog.keeps_reading {fetch : Fetch (StateM World)} (h : Keeps view fetch)
    (f : Listing → Except SolveFault α) : Keeps view (empty.reading fetch f) := by
  refine Keeps.bind (h.bind fun fetched => ?_) fun _ => Keeps.pure _
  split <;> exact Keeps.pure _

theorem Validation.keeps_run {ask : Int → StateM World (Except ServiceFault Json)}
    (h : ∀ problem, Keeps view (ask problem)) (ids : List Int) :
    Keeps view (run ask (fun _ => pure ()) ids) := by
  induction ids with
  | nil => exact Keeps.pure _
  | cons problem rest ih =>
    exact (h problem).bind fun _ => (Keeps.pure ()).bind fun _ => ih.bind fun _ => Keeps.pure _

/-! ## Solving -/

namespace Pursuit

variable {c : Pursuit (StateM World)}

/-- All that a solve acts on leaves the view as it is. -/
structure Leaves (c : Pursuit (StateM World)) (view : World → β) : Prop where
  submit : ∀ package request, Keeps view (c.service.submit package request)
  check : ∀ handle adaptor, Keeps view (c.service.check handle adaptor)
  wait : ∀ ms, Keeps view (c.wait ms)
  tell : ∀ n, Keeps view (c.tell n)

theorem keeps_poll (h : c.Leaves view) (a : Attempt) : Keeps view (c.poll a) := by
  -- by induction on what is left of the budget, which every check that lets the loop go on lowers
  induction hleft : a.left using Nat.strongRecOn generalizing a with
  | ind left ih =>
    rw [poll_eq]
    refine (h.wait _).bind fun _ => (h.check _ _).bind fun answer => ?_
    split
    next => exact Keeps.pure _
    next b hnext =>
      exact (h.tell _).bind fun _ => ih b.left (hleft ▸ Solver.left_lt_of_afterCheck hnext) b rfl

theorem keeps_tellAll (htell : ∀ n, Keeps view (c.tell n)) (notices : List Notice) :
    Keeps view (c.tellAll notices) := by
  induction notices with
  | nil => exact Keeps.pure ()
  | cons n rest ih => exact (htell n).bind fun _ => ih

theorem keeps_fetch (h : c.Leaves view) (package : String) (request : Request) :
    Keeps view (c.fetch package request) := by
  refine (h.submit package request).bind fun answer => ?_
  split
  · exact Keeps.pure _
  · exact (h.tell _).bind fun _ => keeps_poll h _

theorem keeps_solve (h : c.Leaves view) (package : String) (request : Request) :
    Keeps view (c.solve package request) :=
  (keeps_fetch h package request).bind fun _ =>
    (keeps_tellAll h.tell _).bind fun _ => Keeps.pure _

end Pursuit

namespace SolveOrder

variable (h : Unmoved view api url) (o : SolveOrder)
include h

theorem keeps_listedRequest (word : String) :
    Keeps view (listedRequest World.host api word) := by
  unfold listedRequest
  split
  · exact Keeps.pure _
  · refine (Browse.keeps_problems h _).bind fun problems => ?_
    split
    · exact Keeps.pure _
    · split <;> exact Keeps.pure _

omit h in
theorem keeps_documentRequest : Keeps view (o.documentRequest World.host) := by
  refine (Keeps.loadDocuments _ _).bind fun documents => ?_
  split
  · exact Keeps.pure _
  · split <;> exact Keeps.pure _

theorem keeps_request : Keeps view (o.request World.host api) := by
  unfold request
  split
  · exact keeps_listedRequest h _
  · split
    · split <;> exact Keeps.pure _
    · exact o.keeps_documentRequest

end SolveOrder

/-! ## Commands -/

section Commands

variable {c : CommandContext} {json : Bool}
  (h : Unmoved view c.config.catalog.apiUrl c.session.baseUrl)
  (htell : ∀ n, Keeps view (SolveOrder.tell World.host json n))

namespace SolveOrder

include h htell

theorem keeps_pursue (package : String) (started : Moment) (request : Request) :
    Keeps view (pursue World.host c json package started request) := by
  unfold pursue
  refine Keeps.bind (Pursuit.keeps_solve ?_ package request) fun result => ?_
  · exact ⟨SolverService.keeps_submit h, SolverService.keeps_check h, h.wait, htell⟩
  · split
    · exact Keeps.pure _
    · exact Keeps.now.bind fun _ => Keeps.pure _

theorem keeps_carryOut (o : SolveOrder) : Keeps view (o.carryOut World.host c json) := by
  refine Keeps.now.bind fun started => (keeps_request h o).bind fun built => ?_
  split
  · exact Keeps.pure _
  · refine (Catalog.keeps_reading (SolverService.keeps_listing h) _).bind fun settled => ?_
    dsimp only
    split
    · exact Keeps.pure _
    · exact keeps_pursue h htell _ _ _

end SolveOrder

namespace Command

theorem keeps_saveUrl (hview : IgnoresFiles view) (given : String) :
    Keeps view (saveUrl World.host c given) := by
  unfold saveUrl
  dsimp only
  split
  · refine (Keeps.saveSettings hview _ _).bind fun saved => ?_
    split <;> exact Keeps.pure _
  · exact Keeps.pure _

include h

theorem keeps_listPackages (name : Option String) :
    Keeps view (listPackages World.host c name) := by
  cases name <;>
    exact (Catalog.keeps_reading (SolverService.keeps_listing h) _).bind fun _ => Keeps.pure _

omit h in
theorem keeps_listDomainsOf (h : Unmoved view api url) (wanted : String) :
    Keeps view (listDomainsOf (CollectionService.overHttp World.host.send api) wanted) := by
  refine (Browse.keeps_collections h).bind fun offered => ?_
  split
  · exact Keeps.pure _
  · split
    · exact Keeps.pure _
    · exact ((Browse.keeps_domains h).bind fun _ => Keeps.pure _).bind fun _ => Keeps.pure _

theorem keeps_validateProblems (ids : List Int) :
    Keeps view (validateProblems World.host c ids) :=
  (Validation.keeps_run (SolverService.keeps_validate h) _).bind fun _ => Keeps.pure _

include htell

/-- A command leaves as it is what waiting, asking its two services and telling the user leave as it
is; where it saves another base URL, files are changed besides. -/
theorem keeps_execute (command : Command)
    (hview : ∀ given, command = .setUrl given → IgnoresFiles view) :
    Keeps view (command.execute World.host c json) := by
  cases command with
  | solve order => exact SolveOrder.keeps_carryOut h htell order
  | packages name => exact keeps_listPackages h name
  | collections => exact (Browse.keeps_collections h).bind fun _ => Keeps.pure _
  | domains wanted =>
    cases wanted with
    | none => exact (Browse.keeps_domains h).bind fun _ => Keeps.pure _
    | some wanted => exact keeps_listDomainsOf h wanted
  | problems domain => exact (Browse.keeps_problems h domain).bind fun _ => Keeps.pure _
  | validate ids => exact keeps_validateProblems h ids
  | showSettings => exact Keeps.pure _
  | setUrl given => exact keeps_saveUrl (hview given rfl) given

end Command

end Commands

end PlanCourier

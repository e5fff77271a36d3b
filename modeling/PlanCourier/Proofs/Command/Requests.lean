import PlanCourier.Proofs.Command.Opening
import PlanCourier.Proofs.Command.Traffic
import PlanCourier.Proofs.Package.Parameters
import PlanCourier.Proofs.Solve.Verdict

/-!
# The requests of a solve

What the command that solves asks for, in which order, and where it stops. Putting the task together
may ask for the problems of a domain; with a task the listing of the packages is fetched, once; the
task is submitted where the listing and the user's values permit it, or where there is no listing to
check them with; then the task is polled within the budget. The proofs go along the command part by
part, with the lemmas on what actions ask for.

A request is made before it is known whether its address can be sent to, so requests are counted as
they are made; `HttpRequest.sent` leaves those on record that leave the program.

Main statements:

- `SolveOrder.valuesSent_eq_ok`: the values that are sent are those that are permitted;
- `Pursuit.asks_poll`: a loop stays within its budget;
- `SolveOrder.asks_carryOut`: the requests of the command;
- `requests_of_solve_command`: the requests of a whole run.
-/

namespace PlanCourier

open World (Asks)

/-! ## The listing -/

/-- With which values a package may be asked to solve, for what came of asking for the listing. -/
inductive Permitted (package : String) (user : Values) :
    Except ServiceFault Listing → Values → Prop
  /-- Without a listing the user's values are not checked. -/
  | unlisted (cause : ServiceFault) : Permitted package user (.error cause) user
  | listed {listing : Listing} {p : Package} {values : Values}
      (hkey : listing.lookup package = some p)
      (haccepted : Parameter.Accepted p.solveParameters user)
      (hvalues : Parameter.resolve p.solveParameters user = .ok values) :
      Permitted package user (.ok listing) values

namespace Permitted

variable {package : String} {user : Values} {fetched : Except ServiceFault Listing}

theorem unique {values values' : Values} (h : Permitted package user fetched values)
    (h' : Permitted package user fetched values') : values = values' := by
  cases h with
  | unlisted cause =>
    cases h'
    rfl
  | listed hkey _ hvalues =>
    obtain _ | ⟨hkey', _, hvalues'⟩ := h'
    obtain rfl := Option.some.inj (hkey.symm.trans hkey')
    exact Except.ok.inj (hvalues.symm.trans hvalues')

/-- A listing has to hold the package, and the package has to accept the values. -/
theorem exists_accepting {listing : Listing} {values : Values}
    (h : Permitted package user (.ok listing) values) :
    ∃ p, listing.lookup package = some p ∧ Parameter.Accepted p.solveParameters user := by
  obtain _ | ⟨hkey, haccepted, _⟩ := h
  exact ⟨_, hkey, haccepted⟩

end Permitted

/-- What a catalog that holds nothing makes of the user's values: it fetches the listing once. -/
theorem Catalog.run_resolve {fetch : Fetch (StateM World)} {w w' : World}
    {fetched : Except ServiceFault Listing} (h : fetch.run w = (fetched, w')) (key : String)
    (user : Values) : ∃ catalog, (empty.resolve fetch key user).run w =
      (((fetched.mapError .listing).bind fun l =>
        (find key l).bind fun p => Parameter.resolve p.solveParameters user, catalog), w') := by
  simp only [resolve, reading, index, empty, refresh, StateT.run_bind, h]
  cases fetched <;> exact ⟨_, rfl⟩

namespace SolveOrder

variable {o : SolveOrder}

/-- The values that are sent are those that are permitted: of the faults only a listing that could
not be fetched is passed over. -/
theorem valuesSent_eq_ok {fetched : Except ServiceFault Listing} {package : String}
    {values : Values} :
    o.valuesSent ((fetched.mapError .listing).bind fun l =>
        (Catalog.find package l).bind fun p => Parameter.resolve p.solveParameters o.values) =
      .ok values ↔ Permitted package o.values fetched values := by
  cases fetched with
  | error cause =>
    constructor
    · intro h
      obtain rfl : o.values = values := Except.ok.inj h
      exact .unlisted cause
    · rintro ⟨⟩
      rfl
  | ok listing =>
    change o.valuesSent ((Catalog.find package listing).bind _) = _ ↔ _
    unfold Catalog.find
    cases hkey : listing.lookup package with
    | none =>
      constructor
      · intro h
        cases h
      · rintro (_ | ⟨hfound, _, _⟩)
        simp [hkey] at hfound
    | some p =>
      change o.valuesSent (Parameter.resolve p.solveParameters o.values) = _ ↔ _
      constructor
      · intro h
        cases hvalues : Parameter.resolve p.solveParameters o.values with
        | ok resolved =>
          rw [hvalues] at h
          obtain rfl : resolved = values := Except.ok.inj h
          exact .listed hkey (Parameter.accepted_of_resolve hvalues) hvalues
        | error fault =>
          obtain ⟨-, name, v, expected, rfl⟩ := Parameter.resolve_eq_error hvalues
          simp [hvalues, valuesSent] at h
      · rintro (_ | ⟨hfound, _, hvalues⟩)
        obtain rfl := Option.some.inj (hkey.symm.trans hfound)
        rw [hvalues]
        rfl

end SolveOrder

/-! ## The solve itself -/

theorem Attempt.left_pos {a : Attempt} (h : a.isExhausted = false) : 0 < a.left := by
  have hlt : a.number.toNat < a.budget.toNat := by
    simpa [isExhausted, UInt32.not_le, UInt32.lt_iff_toNat_lt] using h
  exact Nat.sub_pos_of_lt hlt

namespace Pursuit

/-- A solve on a host that is a state, with the solver at an address. -/
def onWorld (solver : Solver) (url : String) (json : Bool) : Pursuit (StateM World) :=
  ⟨solver, SolverService.overHttp World.host.send url, World.host.wait,
    SolveOrder.tell World.host json⟩

variable (solver : Solver) (url : String) (json : Bool)

theorem asks_tellAll (notices : List Notice) (w : World) :
    Asks ((onWorld solver url json).tellAll notices) w [] := by
  induction notices generalizing w with
  | nil => exact Asks.pure ()
  | cons n rest ih => exact (Asks.tell json n).after (ih _)

theorem submit_onWorld (package : String) (request : Request) :
    (onWorld solver url json).service.submit package request =
      (HttpRequest.submission (Url.trimBase url) package request).ask World.host.send := by
  dsimp only [onWorld, SolverService.overHttp]

theorem check_onWorld (handle adaptor : String) :
    (onWorld solver url json).service.check handle adaptor =
      (HttpRequest.statusCheck (Url.trimBase url) handle adaptor).ask World.host.send := by
  dsimp only [onWorld, SolverService.overHttp]

/-- A loop asks for the state of one task, at least once, but not more often than its budget
allows. -/
theorem asks_poll (a : Attempt) (w : World) : ∃ n, 1 ≤ n ∧ n ≤ max 1 a.left ∧
    Asks ((onWorld solver url json).poll a) w (List.replicate n
      (.statusCheck (Url.trimBase url) a.handle solver.adaptor)) := by
  -- by induction on what is left of the budget: a check that lets the loop go on uses up some of it
  induction hleft : a.left using Nat.strongRecOn generalizing a w with
  | ind left ih =>
    let check := HttpRequest.statusCheck (Url.trimBase url) a.handle solver.adaptor
    let waited := (onWorld solver url json).pause.run w
    let reply := (check.ask World.host.send).run waited.2
    have hwait : Asks (onWorld solver url json).pause w [] := Asks.wait _
    rw [poll_eq, show (onWorld solver url json).solver = solver from rfl, check_onWorld]
    cases hnext : solver.afterCheck a reply.1 with
    | ended result =>
      refine ⟨1, Nat.le_refl 1, by omega, hwait.after ((Asks.ask check).before ?_)⟩
      rw [hnext]
      exact Asks.pure result
    | wait b =>
      have hlt : b.left < a.left := Solver.left_lt_of_afterCheck hnext
      obtain ⟨-, hgoesOn, rfl⟩ := Solver.afterCheck_eq_wait.1 hnext
      have hpos := Attempt.left_pos hgoesOn
      obtain ⟨n, -, hn, hpoll⟩ := ih a.next.left (hleft ▸ hlt) a.next
        ((SolveOrder.tell World.host json (.stillSolving solver.policy)).run reply.2).2 rfl
      refine ⟨n + 1, by omega, by omega, hwait.after ((Asks.ask check).bind ?_)⟩
      rw [hnext]
      exact (Asks.tell json _).after hpoll

/-- A request is submitted once. If that leads to a task, this task is polled. -/
theorem asks_fetch {package : String} {request : Request} {w w' : World}
    {answer : Except ServiceFault Json}
    (hanswer : ((HttpRequest.submission (Url.trimBase url) package request).ask
      World.host.send).run w = (answer, w')) :
    ∃ checks, Asks ((onWorld solver url json).fetch package request) w
        (.submission (Url.trimBase url) package request :: checks) ∧
      ((checks = [] ∧ ∃ fault, solver.afterSubmit package answer = .error fault) ∨
        ∃ handle n, solver.afterSubmit package answer = .ok handle ∧ 1 ≤ n ∧
        n ≤ max 1 solver.policy.budget.toNat ∧
        checks = List.replicate n (.statusCheck (Url.trimBase url) handle solver.adaptor)) := by
  unfold fetch
  rw [submit_onWorld]
  cases htask : solver.afterSubmit package answer with
  | error fault =>
    refine ⟨[], (Asks.ask _).before ?_, .inl ⟨rfl, fault, rfl⟩⟩
    rw [hanswer, show (onWorld solver url json).solver = solver from rfl, htask]
    exact Asks.pure _
  | ok handle =>
    obtain ⟨n, hpos, hn, hpoll⟩ := asks_poll solver url json (solver.policy.start handle)
      ((SolveOrder.tell World.host json .initiated).run w').2
    refine ⟨_, (Asks.ask _).bind ?_, .inr ⟨handle, n, rfl, hpos, hn, rfl⟩⟩
    rw [hanswer, show (onWorld solver url json).solver = solver from rfl, htask]
    exact (Asks.tell json _).after hpoll

theorem asks_solve {package : String} {request : Request} {w : World} {rs : List HttpRequest}
    (h : Asks ((onWorld solver url json).fetch package request) w rs) :
    Asks ((onWorld solver url json).solve package request) w rs :=
  h.before ((asks_tellAll _ _ _ _ _).after (Asks.pure _))

end Pursuit

/-! ## The command -/

theorem Catalog.asks_resolve {fetch : Fetch (StateM World)} {w : World} {rs : List HttpRequest}
    (h : Asks fetch w rs) (key : String) (user : Values) :
    Asks (empty.resolve fetch key user) w rs := by
  have htraffic := h.traffic
  rcases hfetch : fetch.run w with ⟨fetched, w'⟩
  obtain ⟨catalog, hrun⟩ := run_resolve hfetch key user
  rw [hfetch] at htraffic
  constructor
  rw [hrun]
  exact htraffic

theorem CollectionService.asks_fetch {decode : Decode α} (api path : String) (w : World) :
    Asks (fetch World.host.send api decode path) w [.get (Url.join api path)] := by
  unfold fetch
  dsimp only
  exact (Asks.ask _).before (Asks.pure _)

theorem CollectionService.asks_problems (api : String) (domain : Int) (w : World) :
    Asks (Browse.problems (overHttp World.host.send api) domain) w
      [.get (Url.join api ("problems/" ++ Text.integerText domain))] := by
  unfold Browse.problems overHttp
  exact (asks_fetch _ _ _).before (Asks.pure _)

theorem SolverService.asks_listing (url : String) (w : World) :
    Asks (overHttp World.host.send url).listing w [.packages (Url.trimBase url)] := by
  unfold overHttp
  dsimp only
  exact (Asks.ask _).before (Asks.pure _)

def CommandContext.solver (c : CommandContext) : Solver :=
  ⟨Url.trimBase c.session.baseUrl, c.config.service.adaptor, c.config.poll.policy⟩

namespace SolveOrder

variable (o : SolveOrder)

/-- The package that is asked to solve. -/
def packageIn (c : CommandContext) : String := o.package.getD c.config.service.defaultPackage

/-- The request for the problems of the domain, where a reference is given that can be read. -/
def listingRequests (api : String) : List HttpRequest :=
  match o.listed.map ProblemReference.read with
  | some (.ok r) => [.get (Url.join api ("problems/" ++ Text.integerText r.domain))]
  | _ => []

theorem asks_listedRequest {api word : String} {r : ProblemReference}
    (h : ProblemReference.read word = .ok r) (w : World) :
    Asks (listedRequest World.host api word) w
      [.get (Url.join api ("problems/" ++ Text.integerText r.domain))] := by
  unfold listedRequest
  rw [h]
  refine (CollectionService.asks_problems api r.domain w).before ?_
  split
  · exact Asks.pure _
  · split <;> exact Asks.pure _

theorem asks_documentRequest (w : World) : Asks (o.documentRequest World.host) w [] := by
  unfold documentRequest
  refine (Asks.loadDocuments _ _).after ?_
  split
  · exact Asks.pure _
  · split <;> exact Asks.pure _

theorem asks_request (api : String) (w : World) :
    Asks (o.request World.host api) w (o.listingRequests api) := by
  unfold request listingRequests
  cases o.listed with
  | some word =>
    dsimp only [Option.map_some]
    cases hread : ProblemReference.read word with
    | error fault =>
      unfold listedRequest
      rw [hread]
      exact Asks.pure _
    | ok r => exact asks_listedRequest hread w
  | none =>
    dsimp only [Option.map_none]
    split
    · split <;> exact Asks.pure _
    · exact o.asks_documentRequest w

end SolveOrder

/-- What a solve asks for after its task was put together. `built` is what came of that, `fetched`
is what came of asking for the listing, and `reply` tells the answer to a request after that. -/
structure SolveRequests (c : CommandContext) (o : SolveOrder) (built : Except CommandFault Request)
    (fetched : Except ServiceFault Listing) (reply : HttpRequest → Except ServiceFault Json)
    (packages submissions checks : List HttpRequest) : Prop where
  /-- The listing is asked for once, just where there is a task. -/
  lists : packages = if built.isOk then [.packages (Url.trimBase c.session.baseUrl)] else []
  /-- One request is submitted where values are permitted, and with these values; else none is. -/
  submits : (submissions = [] ∧ ∀ request values, built = .ok request →
      ¬ Permitted (o.packageIn c) o.values fetched values) ∨
    ∃ request values, built = .ok request ∧ Permitted (o.packageIn c) o.values fetched values ∧
      submissions = [.submission (Url.trimBase c.session.baseUrl) (o.packageIn c)
        (request.withParameters values)]
  /-- Only the task that the submission led to is checked, no more often than the budget allows. -/
  polls : checks = [] ∨ ∃ submission handle n, submissions = [submission] ∧
    c.solver.afterSubmit (o.packageIn c) (reply submission) = .ok handle ∧
    n ≤ c.config.poll.maxAttempts.toNat ∧
    checks = List.replicate n
      (.statusCheck (Url.trimBase c.session.baseUrl) handle c.config.service.adaptor)
  /-- Without a task, and for a package that is not listed or a value that is not accepted, nothing
  is submitted and nothing is checked. -/
  stops : ((∃ fault, built = .error fault) ∨ ∃ listing, fetched = .ok listing ∧
      ∀ p, listing.lookup (o.packageIn c) = some p →
        ¬ Parameter.Accepted p.solveParameters o.values) →
    submissions = [] ∧ checks = []

namespace SolveOrder

variable {c : CommandContext} {o : SolveOrder} {json : Bool} {w w₁ w₂ : World}
  {fetched : Except ServiceFault Listing}

theorem asks_pursue {package : String} {started : Moment} {request : Request}
    {rs : List HttpRequest}
    (h : Asks ((Pursuit.onWorld c.solver c.session.baseUrl json).fetch package request) w rs) :
    Asks (pursue World.host c json package started request) w rs := by
  unfold pursue
  refine (Pursuit.asks_solve c.solver c.session.baseUrl json h).before ?_
  split
  · exact Asks.pure _
  · exact Asks.now.after (Asks.pure _)

theorem asks_carryOut_of_fault {fault : CommandFault}
    (hbuilt : (o.request World.host c.config.catalog.apiUrl).run w = (.error fault, w₁)) :
    Asks (o.carryOut World.host c json) w (o.listingRequests c.config.catalog.apiUrl) := by
  unfold carryOut
  refine Asks.now.after ((o.asks_request _ w).before ?_)
  rw [hbuilt]
  exact Asks.pure _

/-- With a task the listing is fetched. The solve begins if that leaves values to send. -/
theorem asks_carryOut_of_request {request : Request} {rs : List HttpRequest}
    (hbuilt : (o.request World.host c.config.catalog.apiUrl).run w = (.ok request, w₁))
    (hfetched : (SolverService.overHttp World.host.send c.session.baseUrl).listing.run w₁ =
      (fetched, w₂))
    (hnone : (∀ values, ¬ Permitted (o.packageIn c) o.values fetched values) → rs = [])
    (hsome : ∀ values, Permitted (o.packageIn c) o.values fetched values →
      Asks ((Pursuit.onWorld c.solver c.session.baseUrl json).fetch (o.packageIn c)
        (request.withParameters values)) w₂ rs) :
    Asks (o.carryOut World.host c json) w (o.listingRequests c.config.catalog.apiUrl ++
      (.packages (Url.trimBase c.session.baseUrl) :: rs)) := by
  obtain ⟨catalog, hsettled⟩ := Catalog.run_resolve hfetched (o.packageIn c) o.values
  have hlisting := Catalog.asks_resolve (SolverService.asks_listing c.session.baseUrl w₁)
    (o.packageIn c) o.values
  unfold carryOut
  refine Asks.now.after ((o.asks_request _ w).bind ?_)
  rw [hbuilt]
  refine hlisting.bind ?_
  rw [hsettled]
  dsimp only
  split
  next fault hvalues =>
    have hrejected : ∀ values, ¬ Permitted (o.packageIn c) o.values fetched values := fun values h =>
      by simp [valuesSent_eq_ok.2 h] at hvalues
    rw [hnone hrejected]
    exact Asks.pure _
  next values hvalues => exact asks_pursue (hsome values (valuesSent_eq_ok.1 hvalues))

theorem asks_carryOut (o : SolveOrder) (c : CommandContext) (json : Bool)
    (hbudget : 0 < c.config.poll.maxAttempts.toNat)
    {built : Except CommandFault Request}
    (hbuilt : (o.request World.host c.config.catalog.apiUrl).run w = (built, w₁))
    (hfetched : (SolverService.overHttp World.host.send c.session.baseUrl).listing.run w₁ =
      (fetched, w₂)) :
    ∃ packages submissions checks,
      Asks (o.carryOut World.host c json) w
        (o.listingRequests c.config.catalog.apiUrl ++ packages ++ submissions ++ checks) ∧
      SolveRequests c o built fetched (fun r => ((r.ask World.host.send).run w₂).1)
        packages submissions checks := by
  cases built with
  | error fault =>
    refine ⟨[], [], [], by simpa using asks_carryOut_of_fault hbuilt, ?_⟩
    exact ⟨rfl, .inl ⟨rfl, nofun⟩, .inl rfl, fun _ => ⟨rfl, rfl⟩⟩
  | ok request =>
    by_cases hpermitted : ∃ values, Permitted (o.packageIn c) o.values fetched values
    · obtain ⟨values, hvalues⟩ := hpermitted
      let submission := HttpRequest.submission (Url.trimBase c.session.baseUrl) (o.packageIn c)
        (request.withParameters values)
      rcases hanswer : (submission.ask World.host.send).run w₂ with ⟨answer, w₃⟩
      obtain ⟨checks, hfetch, hchecks⟩ :=
        Pursuit.asks_fetch c.solver c.session.baseUrl json hanswer
      refine ⟨[.packages _], [submission], checks, ?_, rfl, .inr ⟨request, values, rfl, hvalues, rfl⟩,
        hchecks.imp And.left ?_, ?_⟩
      · simpa using asks_carryOut_of_request hbuilt hfetched (fun h => absurd hvalues (h values))
          fun values' h => h.unique hvalues ▸ hfetch
      · rintro ⟨handle, n, htask, -, hn, rfl⟩
        refine ⟨submission, handle, n, rfl, ?_, ?_, rfl⟩
        · rw [hanswer]
          exact htask
        · have hpolicy : c.solver.policy.budget.toNat = max 1 c.config.poll.maxAttempts.toNat :=
            PollPolicy.toNat_budget_of _ _
          omega
      · rintro (⟨fault, hfault⟩ | ⟨listing, hlisted, hrejected⟩)
        · cases hfault
        · rw [hlisted] at hvalues
          obtain ⟨p, hkey, haccepted⟩ := hvalues.exists_accepting
          exact absurd haccepted (hrejected p hkey)
    · have hnone : ∀ values, ¬ Permitted (o.packageIn c) o.values fetched values :=
        fun values h => hpermitted ⟨values, h⟩
      refine ⟨[.packages _], [], [], ?_, rfl, .inl ⟨rfl, fun _ values _ => hnone values⟩, .inl rfl,
        fun _ => ⟨rfl, rfl⟩⟩
      simpa using asks_carryOut_of_request hbuilt hfetched (fun _ => rfl)
        fun values h => absurd h (hnone values)

end SolveOrder

/-! ## The run -/

namespace Config

variable {c : Config}

/-- A usable configuration leaves a solve at least one check. -/
theorem maxAttempts_pos (h : c.fault? = none) : 0 < c.poll.maxAttempts.toNat := by
  have hne : c.poll.maxAttempts ≠ 0 := by
    intro hzero
    unfold fault? at h
    dsimp only at h
    grind
  exact Nat.pos_of_ne_zero fun hzero => hne (UInt32.toNat_inj.1 hzero)

end Config

namespace Invocation

variable {env : Environment} {i : Invocation} {w : World} {config : Config}

theorem asks_run {rs : List HttpRequest} (h : Asks (i.conclude World.host env) w rs) :
    Asks (i.run World.host env) w rs := by
  refine h.before ?_
  split
  · exact Asks.abort _
  · exact Asks.print _ _

theorem asks_conclude_of_fault {fault : LoadFault}
    (h : ((i.loadConfig World.host env).run w).1 = .error fault) :
    Asks (i.conclude World.host env) w [] :=
  ⟨by rw [run_conclude_of_fault h]; rfl⟩

theorem asks_conclude_of_unopened {fault : LogFile.Fault}
    (h : ((i.loadConfig World.host env).run w).1 = .ok config)
    (hlog : (opened config w).1 = .error fault) : Asks (i.conclude World.host env) w [] :=
  ⟨by rw [run_conclude_of_unopened h hlog]; exact view_started Asks.ignoresFiles_traffic config w⟩

theorem asks_conclude_of_opened {rs : List HttpRequest}
    (h : ((i.loadConfig World.host env).run w).1 = .ok config)
    (hlog : (opened config w).1 = .ok ())
    (hexecuted : Asks (i.command.execute World.host (i.context config w) i.options.json)
      (started config w) rs) : Asks (i.conclude World.host env) w rs := by
  constructor
  rw [run_conclude_of_opened h hlog]
  dsimp only
  rw [hexecuted.traffic, view_started Asks.ignoresFiles_traffic]

end Invocation

/-- Where nothing can be reached, a request only brings a fault. -/
theorem HttpRequest.ask_silent (r : HttpRequest) {w : World} (h : w.network = .silent) :
    (∃ cause, ((r.ask World.host.send).run w).1 = .error cause) ∧
      ((r.ask World.host.send).run w).2.network = .silent := by
  unfold ask
  cases r.refusal? with
  | some reason => exact ⟨⟨_, rfl⟩, h⟩
  | none =>
    have hsend : (World.host.send r).run w = (.unreachable, { w with traffic := r :: w.traffic }) := by
      rw [World.send_host, h]
      rfl
    refine ⟨⟨.transport r.url r.silence, ?_⟩, ?_⟩
    · simp only [StateT.run_bind, hsend]
      rfl
    · simp only [StateT.run_bind, hsend]
      exact h

theorem SolverService.listing_silent (url : String) {w : World} (h : w.network = .silent) :
    (∃ cause, ((overHttp World.host.send url).listing.run w).1 = .error cause) ∧
      ((overHttp World.host.send url).listing.run w).2.network = .silent := by
  obtain ⟨⟨cause, hcause⟩, hnetwork⟩ :=
    (HttpRequest.packages (Url.trimBase url)).ask_silent h
  rcases hask : ((HttpRequest.packages (Url.trimBase url)).ask World.host.send).run w with
    ⟨answer, w'⟩
  rw [hask] at hcause hnetwork
  obtain rfl : answer = .error cause := hcause
  refine ⟨⟨cause, ?_⟩, ?_⟩
  · simp only [overHttp, StateT.run_bind, hask]
    rfl
  · simp only [overHttp, StateT.run_bind, hask]
    exact hnetwork

namespace Sample

/-- The order to solve a problem that the service fetches itself. -/
def hostedOrder : SolveOrder :=
  { SolveOrder.blank with
    domain := some "http://a/d", problem := some "http://a/p", hosted := true }

end Sample

end PlanCourier

import PlanCourier.Proofs.Command.Requests
import PlanCourier.Proofs.Solve.Budget
import PlanCourier.Proofs.Solve.Concurrent
import PlanCourier.Proofs.Url.Joining

/-!
# The addresses that faults name

An errand that fails because an answer names no task, or because a check brings a fault, names an
address. With a solver over HTTP this is the address that its last call was posted to.

For errands beside each other the proof has two halves. One follows a run from turn to turn: its
stage tells of the last exchange in its account. The other follows the desk: each reply is what the
service gave for that call, after the calls before it. A turn makes at most one call, so a move of
the schedule keeps both. A solve alone is followed from check to check instead.

Main statements:

- `Run.exchange_of_turn`: the exchange of a turn, if there is one;
- `Run.tellsOf_turn` and `Desk.served_after`: what a turn keeps;
- `Schedule.accounted_run`: what holds at the end of every schedule;
- `Posted.of_served`: with a solver over HTTP each exchange was made by posting a request;
- `Pursuit.requests_of_solve_error`: the requests of a solve alone that ends with a fault;
- `addresses_of_solver`: how addresses are made, and which ones faults name.
-/

namespace PlanCourier

open World (Asks)

/-! ## A run and its last exchange -/

theorem Solver.verdict_eq_error {s : Solver} {handle : String}
    {answer : Except ServiceFault Json} {fault : SolveFault} :
    s.verdict handle answer = some (.error fault) ↔
      ∃ cause, answer = .error cause ∧ fault = .check (Url.poll s.base handle) cause := by
  cases answer with
  | error cause => simp [verdict, eq_comm]
  | ok response =>
    simp only [verdict, reduceCtorEq, false_and, exists_false, iff_false]
    split <;> simp

/-- The fault of an errand, for the last exchange of its run. -/
inductive Solver.Blames (s : Solver) : Option (Call × Reply) → SolveFault → Prop
  | submission {package : String} {request : Request} {reply : Reply} {fault : SolveFault}
      (h : s.afterSubmit package reply.answer = .error fault) :
      Blames s (some (.submit package request, reply)) fault
  | check {handle : String} {reply : Reply} {cause : ServiceFault}
      (h : reply.answer = .error cause) :
      Blames s (some (.check handle s.adaptor, reply)) (.check (Url.poll s.base handle) cause)
  | refused (last : Option (Call × Reply)) (handle : String) :
      Blames s last (.alreadyPolling handle)

/-- What a stage tells of the last exchange: the answer that is waited for is the one it brought,
and a fault blames it. -/
def Stage.TellsOf (s : TimedSolver) (last : Option (Call × Reply)) : Stage → Prop
  | .submitting _ package answer =>
    ∃ request reply, last = some (.submit package request, reply) ∧ reply.answer = answer
  | .checking _ a answer =>
    ∃ reply, last = some (.check a.handle s.adaptor, reply) ∧ reply.answer = answer
  | .closed (.error fault) => s.Blames last fault
  | _ => True

theorem exchanges_append (account account' : List (Nat × Deed)) :
    exchanges (account ++ account') = exchanges account ++ exchanges account' :=
  List.filterMap_append

theorem exchanges_map (now : Nat) (deeds : List Deed) :
    exchanges (deeds.map (now, ·)) = deeds.filterMap Deed.exchange? :=
  List.filterMap_map ..

namespace Run

variable (s : TimedSolver) (job : Appointment) (now : Nat)

theorem exchange?_of_mem_closing {result : Except SolveFault Outcome} {deed : Deed}
    (h : deed ∈ closing job result) : deed.exchange? = none := by
  rcases List.mem_append.1 h with htold | hended
  · split at htold
    · obtain ⟨notice, -, rfl⟩ := List.mem_map.1 htold
      rfl
    · cases htold
  · obtain rfl := List.mem_singleton.1 hended
    rfl

theorem exchange?_of_mem_enter {claims : Claims} {deeds : List Deed} {handle : String}
    (hdeeds : ∀ deed ∈ deeds, deed.exchange? = none) :
    ∀ deed ∈ (enter s job now claims deeds handle).deeds, deed.exchange? = none := by
  unfold enter
  split
  · intro deed h
    rcases List.mem_append.1 h with h | h
    · exact hdeeds deed h
    · exact exchange?_of_mem_closing job h
  · exact hdeeds

/-- A turn makes no exchange, or one call is all that is done in it. -/
theorem exchange_of_turn (f : Setting) (stage : Stage) :
    (∀ deed ∈ (turn s job now f stage).deeds, deed.exchange? = none) ∨
      ∃ call, (turn s job now f stage).deeds = [.called call (f.reply call)] := by
  cases stage with
  | before =>
    unfold turn
    dsimp only
    split
    · exact .inr ⟨_, rfl⟩
    · exact .inr ⟨_, rfl⟩
    · exact .inl (exchange?_of_mem_enter s job now (by simp))
    · exact .inl (by simp [Deed.exchange?])
  | submitting due package answer =>
    unfold turn
    dsimp only
    split
    · exact .inl fun _ => exchange?_of_mem_closing job
    · split
      · refine .inl (exchange?_of_mem_enter s job now ?_)
        split <;> simp [Deed.exchange?]
      · exact .inl (by simp [Deed.exchange?])
  | waiting due a =>
    unfold turn
    dsimp only
    split
    · exact .inl fun _ => exchange?_of_mem_closing job
    · exact .inr ⟨_, rfl⟩
  | checking due a answer =>
    unfold turn
    dsimp only
    split
    · exact .inl fun _ => exchange?_of_mem_closing job
    · split
      · exact .inl fun _ => exchange?_of_mem_closing job
      · exact .inl (by simp [Deed.exchange?])
  | closed result => exact .inl (by simp [turn])

theorem tellsOf_enter (claims : Claims) (deeds : List Deed) (handle : String)
    (last : Option (Call × Reply)) :
    (enter s job now claims deeds handle).stage.TellsOf s last := by
  by_cases h : handle ∈ claims
  · rw [enter_of_mem s job now h]
    exact .refused last handle
  · rw [enter_of_not_mem s job now h]
    trivial

variable {s job now}

/-- After its turn a run tells of the exchange of this turn, and of the one before if the turn made
none. -/
theorem tellsOf_turn {f : Setting} {stage : Stage} {before : List (Call × Reply)}
    (h : stage.TellsOf s before.getLast?) :
    (turn s job now f stage).stage.TellsOf s
      (before ++ (turn s job now f stage).deeds.filterMap Deed.exchange?).getLast? := by
  cases stage with
  | before =>
    unfold turn
    dsimp only
    split
    · exact ⟨_, _, List.getLast?_concat, rfl⟩
    · exact ⟨_, _, List.getLast?_concat, rfl⟩
    · exact tellsOf_enter ..
    · trivial
  | submitting due package answer =>
    obtain ⟨request, reply, hlast, rfl⟩ := h
    unfold turn
    dsimp only
    split
    next fault hfault =>
      -- to end is no exchange, so the submission is still the last one
      have hnone : (finish job f.claims [] (.error fault)).deeds.filterMap Deed.exchange? = [] :=
        List.filterMap_eq_nil_iff.2 fun _ => exchange?_of_mem_closing job
      rw [hnone, List.append_nil, hlast]
      exact .submission hfault
    next =>
      split
      · exact tellsOf_enter ..
      · trivial
  | waiting due a =>
    unfold turn
    dsimp only
    split
    · trivial
    · exact ⟨_, List.getLast?_concat, rfl⟩
  | checking due a answer =>
    obtain ⟨reply, hlast, rfl⟩ := h
    unfold turn
    dsimp only
    split
    · trivial
    · split
      next result hended =>
        have hnone : (leave job f.claims a.handle result).deeds.filterMap Deed.exchange? = [] :=
          List.filterMap_eq_nil_iff.2 fun _ => exchange?_of_mem_closing job
        rw [hnone, List.append_nil, hlast]
        rcases Solver.afterCheck_eq_ended.1 hended with hverdict | ⟨-, -, rfl⟩
        · cases result with
          | ok outcome => trivial
          | error fault =>
            obtain ⟨cause, hcause, rfl⟩ := Solver.verdict_eq_error.1 hverdict
            exact .check hcause
        · trivial
      next => trivial
  | closed result => simpa [turn] using h

end Run

/-! ## The desk and the service -/

/-- Each reply in the book is what the service gave for the call, after the calls before it. -/
def Desk.Served (service : TimedService) (d : Desk) : Prop :=
  ∀ run, ∀ exchange ∈ d.exchanges run, ∃ before, exchange.1 :: before <:+ d.calls ∧
    exchange.2 = service (exchange.1 :: before)

namespace Desk

variable {service : TimedService} {d : Desk} {t : Turn} {run : Nat}

theorem exchanges_after (d : Desk) (run : Nat) (t : Turn) :
    (d.after run t).exchanges run = d.exchanges run ++ t.deeds.filterMap Deed.exchange? := by
  rw [exchanges, account_after, exchanges_append, exchanges_map]
  rfl

theorem exchanges_after_ne {other : Nat} (h : other ≠ run) (d : Desk) (t : Turn) :
    (d.after other t).exchanges run = d.exchanges run := by
  rw [exchanges, account_after_ne d h]
  rfl

theorem served_quiet (service : TimedService) : Served service quiet := nofun

theorem served_after (hd : Served service d)
    (ht : (∀ deed ∈ t.deeds, deed.exchange? = none) ∨
      ∃ call, t.deeds = [.called call (service (call :: d.calls))]) :
    Served service (d.after run t) := by
  have hkept : d.calls <:+ (d.after run t).calls := List.suffix_append ..
  have hold : ∀ position, ∀ exchange ∈ d.exchanges position, ∃ before,
      exchange.1 :: before <:+ (d.after run t).calls ∧
        exchange.2 = service (exchange.1 :: before) := by
    intro position exchange h
    obtain ⟨before, hcalls, hreply⟩ := hd position exchange h
    exact ⟨before, hcalls.trans hkept, hreply⟩
  intro position exchange h
  -- the exchange of this turn is new, and its call stands in front of those that were made before
  by_cases hrun : run = position
  · subst hrun
    rw [exchanges_after] at h
    rcases List.mem_append.1 h with h | h
    · exact hold run exchange h
    · rcases ht with hnone | ⟨call, hdeeds⟩
      · rw [List.filterMap_eq_nil_iff.2 hnone] at h
        cases h
      · rw [hdeeds] at h
        obtain rfl := List.mem_singleton.1 h
        refine ⟨d.calls, ?_, rfl⟩
        simp [after, hdeeds, Deed.call?]
  · rw [exchanges_after_ne hrun] at h
    exact hold position exchange h

end Desk

namespace Schedule

variable {s : TimedSolver} {service : TimedService} {x : Desk × List Run}

/-- The replies are those of the service, and every run tells of its last exchange. -/
structure Accounted (s : TimedSolver) (service : TimedService) (x : Desk × List Run) : Prop where
  served : x.1.Served service
  tells : ∀ (i : Nat) (r : Run), x.2[i]? = some r → r.stage.TellsOf s (x.1.exchanges i).getLast?

theorem accounted_outset (jobs : List Appointment) : Accounted s service (outset jobs) := by
  refine ⟨Desk.served_quiet service, fun i r hr => ?_⟩
  obtain ⟨job, -, rfl⟩ := List.mem_map.1 (List.mem_of_getElem? hr)
  trivial

theorem Accounted.move (h : Accounted s service x) {p : Pick} (hp : pick x.2 = some p) :
    Accounted s service (move s service x.1 p) := by
  obtain ⟨d, runs⟩ := x
  obtain rfl := (eq_of_pick hp).1
  have hturn := Run.exchange_of_turn s p.run.job (max d.now p.time) (d.setting service) p.run.stage
  refine ⟨Desk.served_after h.served hturn, fun i r hr => ?_⟩
  -- the stage and the account of a run change in its own moves alone
  by_cases hi : p.earlier.length = i
  · subst hi
    rw [getElem?_move] at hr
    obtain rfl := Option.some.inj hr
    have hstage : p.run.stage.TellsOf s (d.exchanges p.earlier.length).getLast? :=
      h.tells _ _ (by simp)
    have hexchanges : (Schedule.move s service d p).1.exchanges p.earlier.length = _ :=
      Desk.exchanges_after ..
    rw [hexchanges]
    exact Run.tellsOf_turn hstage
  · rw [getElem?_move_ne s service d hi] at hr
    have hexchanges : (Schedule.move s service d p).1.exchanges i = d.exchanges i :=
      Desk.exchanges_after_ne hi ..
    rw [hexchanges]
    exact h.tells i r hr

theorem Accounted.play (d : Desk) (runs : List Run) (h : Accounted s service (d, runs)) :
    Accounted s service (play s service d runs) := by
  fun_induction Schedule.play s service d runs with
  | case1 d runs hp => exact h
  | case2 d runs p hp _ ih => exact ih (h.move hp)

theorem accounted_run (s : TimedSolver) (service : TimedService) (jobs : List Appointment) :
    Accounted s service (run s service jobs) := (accounted_outset jobs).play ..

end Schedule

/-! ## A solver over HTTP -/

namespace HttpRequest

variable {r : HttpRequest} {w : World}

theorem url_of_ask_error {cause : ServiceFault}
    (h : ((r.ask World.host.send).run w).1 = .error cause) : cause.url = r.url := by
  unfold ask at h
  cases hrefusal : r.refusal? with
  | some reason =>
    rw [hrefusal] at h
    obtain rfl : ServiceFault.transport r.url reason = cause := Except.error.inj h
    rfl
  | none =>
    rw [hrefusal] at h
    exact url_of_result h

theorem sent_of_ask_ok {response : Json}
    (h : ((r.ask World.host.send).run w).1 = .ok response) : sent [r] = [r] := by
  unfold ask at h
  cases hrefusal : r.refusal? with
  | some reason =>
    rw [hrefusal] at h
    cases h
  | none => simp [sent, hrefusal]

end HttpRequest

/-- A call of a service. -/
def SolverService.call {m : Type → Type} (service : SolverService m) :
    Call → m (Except ServiceFault Json)
  | .submit package request => service.submit package request
  | .check handle adaptor => service.check handle adaptor

/-- The request with which a call is made of the solver at an address. -/
def Call.request (url : String) : Call → HttpRequest
  | .submit package request => .submission (Url.trimBase url) package request
  | .check handle adaptor => .statusCheck (Url.trimBase url) handle adaptor

theorem SolverService.call_overHttp (url : String) (call : Call) :
    (overHttp World.host.send url).call call = (call.request url).ask World.host.send := by
  cases call <;> dsimp only [SolverService.call, overHttp, Call.request]

theorem Call.method_request (url : String) (call : Call) : (call.request url).method = .post := by
  cases call <;> rfl

/-- The world after these calls, of which the latest one comes first. -/
def World.afterCalls (service : SolverService (StateM World)) (w : World) : List Call → World
  | [] => w
  | call :: before => ((service.call call).run (w.afterCalls service before)).2

/-- A service in a world, whose answers take this long. Nobody asks for the answer to no call. -/
def TimedService.inWorld (service : SolverService (StateM World)) (w : World)
    (delay : List Call → Nat) : TimedService
  | [] => ⟨0, .ok .null⟩
  | call :: before => ⟨delay (call :: before),
      ((service.call call).run (w.afterCalls service before)).1⟩

/-- One of these calls was made by posting the request, and the reply to it is what came of that. -/
structure Posted (service : SolverService (StateM World)) (w : World) (calls : List Call)
    (exchange : Call × Reply) (r : HttpRequest) : Prop where
  method : r.method = .post
  call : service.call exchange.1 = r.ask World.host.send
  moment : ∃ before, exchange.1 :: before <:+ calls ∧
    exchange.2.answer = ((service.call exchange.1).run (w.afterCalls service before)).1 ∧
    Asks (service.call exchange.1) (w.afterCalls service before) [r]

namespace Posted

variable {service : SolverService (StateM World)} {w : World} {calls : List Call}
  {exchange : Call × Reply} {r : HttpRequest}

theorem of_served {url : String} {delay : List Call → Nat} {d : Desk} {run : Nat}
    (h : d.Served (.inWorld (.overHttp World.host.send url) w delay))
    (hmem : exchange ∈ d.exchanges run) :
    Posted (.overHttp World.host.send url) w d.calls exchange (exchange.1.request url) := by
  obtain ⟨before, hcalls, hreply⟩ := h run exchange hmem
  have hcall := SolverService.call_overHttp url exchange.1
  refine ⟨exchange.1.method_request url, hcall, before, hcalls, ?_, ?_⟩
  · rw [hreply]
    rfl
  · rw [hcall]
    exact .ask _

theorem url_eq (h : Posted service w calls exchange r) {cause : ServiceFault}
    (hcause : exchange.2.answer = .error cause) : cause.url = r.url := by
  obtain ⟨before, -, hanswer, -⟩ := h.moment
  rw [h.call, hcause] at hanswer
  exact HttpRequest.url_of_ask_error hanswer.symm

theorem sent_eq (h : Posted service w calls exchange r) {response : Json}
    (hresponse : exchange.2.answer = .ok response) : HttpRequest.sent [r] = [r] := by
  obtain ⟨before, -, hanswer, -⟩ := h.moment
  rw [h.call, hresponse] at hanswer
  exact HttpRequest.sent_of_ask_ok hanswer.symm

end Posted

namespace Solver.Blames

variable {s : Solver} {last : Option (Call × Reply)} {address : String}

theorem of_noHandle (h : s.Blames last (.noHandle address)) :
    ∃ package request reply response, last = some (.submit package request, reply) ∧
      reply.answer = .ok response ∧ address = Url.solve s.base package := by
  generalize hfault : SolveFault.noHandle address = fault at h
  cases h with
  | submission h =>
    subst hfault
    rcases Solver.afterSubmit_eq_error h with ⟨_, -, hfault⟩ | ⟨response, hanswer, -, hfault⟩
    · cases hfault
    · exact ⟨_, _, _, response, rfl, hanswer, SolveFault.noHandle.inj hfault⟩
  | check | refused => cases hfault

theorem of_check {cause : ServiceFault} (h : s.Blames last (.check address cause)) :
    ∃ handle reply, last = some (.check handle s.adaptor, reply) ∧
      reply.answer = .error cause ∧ address = Url.poll s.base handle := by
  generalize hfault : SolveFault.check address cause = fault at h
  cases h with
  | submission h =>
    subst hfault
    rcases Solver.afterSubmit_eq_error h with ⟨_, -, hfault⟩ | ⟨_, -, -, hfault⟩ <;> cases hfault
  | check hanswer =>
    obtain ⟨rfl, rfl⟩ := SolveFault.check.inj hfault
    exact ⟨_, _, rfl, hanswer, rfl⟩
  | refused => cases hfault

end Solver.Blames

/-! ## A solve alone -/

namespace Pursuit

/-- A loop is one check and, if that does not end it, the loop after it. -/
theorem run_poll (c : Pursuit (StateM World)) (a : Attempt) {w waited : World}
    {reply : Except ServiceFault Json × World}
    (hwait : c.pause.run w = ((), waited))
    (hreply : (c.service.check a.handle c.solver.adaptor).run waited = reply) :
    (c.poll a).run w =
      match c.solver.afterCheck a reply.1 with
      | .ended result => (result, reply.2)
      | .wait b => (c.poll b).run ((c.tell (.stillSolving c.solver.policy)).run reply.2).2 := by
  rw [poll_eq, World.run_bind hwait, World.run_bind hreply]
  cases c.solver.afterCheck a reply.1 <;> rfl

variable {solver : Solver} {url : String} {json : Bool} {w : World} {fault : SolveFault}

/-- A fault that ends a loop and the cause of it name the address of the task. -/
theorem fault_of_poll {a : Attempt}
    (h : (((onWorld solver url json).poll a).run w).1 = .error fault) :
    ∃ cause, fault = .check (Url.poll solver.base a.handle) cause ∧
      cause.url = Url.poll (Url.trimBase url) a.handle := by
  -- by induction on what is left of the budget: only the last check can bring a fault
  induction hleft : a.left using Nat.strongRecOn generalizing a w with
  | ind left ih =>
    let check := HttpRequest.statusCheck (Url.trimBase url) a.handle solver.adaptor
    obtain ⟨waited, hwait⟩ : ∃ waited, (onWorld solver url json).pause.run w = ((), waited) :=
      ⟨_, rfl⟩
    obtain ⟨reply, hreply⟩ : ∃ reply, (check.ask World.host.send).run waited = reply := ⟨_, rfl⟩
    have hrun : ((onWorld solver url json).poll a).run w =
        match solver.afterCheck a reply.1 with
        | .ended result => (result, reply.2)
        | .wait b => ((onWorld solver url json).poll b).run
            (((onWorld solver url json).tell (.stillSolving solver.policy)).run reply.2).2 :=
      run_poll (onWorld solver url json) a hwait (by rw [check_onWorld]; exact hreply)
    cases hnext : solver.afterCheck a reply.1 with
    | ended result =>
      rw [hnext] at hrun
      obtain rfl : result = .error fault := by rwa [hrun] at h
      rcases Solver.afterCheck_eq_ended.1 hnext with hverdict | ⟨-, -, hresult⟩
      · obtain ⟨cause, hcause, rfl⟩ := Solver.verdict_eq_error.1 hverdict
        rw [← hreply] at hcause
        exact ⟨cause, rfl, HttpRequest.url_of_ask_error hcause⟩
      · cases hresult
    | wait b =>
      have hlt : b.left < a.left := Solver.left_lt_of_afterCheck hnext
      obtain ⟨-, -, rfl⟩ := Solver.afterCheck_eq_wait.1 hnext
      rw [hnext] at hrun
      rw [hrun] at h
      obtain ⟨cause, hfault, hurl⟩ := ih a.next.left (hleft ▸ hlt) h rfl
      exact ⟨cause, hfault, hurl⟩

/-- A solve is one submission and, if that leads to a task, the loop after it. -/
theorem run_fetch (c : Pursuit (StateM World)) (package : String) (request : Request)
    {reply : Except ServiceFault Json × World}
    (hreply : (c.service.submit package request).run w = reply) :
    (c.fetch package request).run w =
      match c.solver.afterSubmit package reply.1 with
      | .error fault => (.error fault, reply.2)
      | .ok handle => (c.poll (c.solver.policy.start handle)).run
          ((c.tell .initiated).run reply.2).2 := by
  rw [fetch, World.run_bind hreply]
  cases c.solver.afterSubmit package reply.1 <;> rfl

theorem fst_run_solve (c : Pursuit (StateM World)) (package : String) (request : Request) :
    ((c.solve package request).run w).1 = ((c.fetch package request).run w).1 := rfl

/-- A solve that ends with a fault has made its submission, or has polled the task that it led
to. -/
theorem requests_of_solve_error {package : String} {request : Request}
    (h : (((onWorld solver url json).solve package request).run w).1 = .error fault) :
    let submission := HttpRequest.submission (Url.trimBase url) package request
    (solver.afterSubmit package ((submission.ask World.host.send).run w).1 = .error fault ∧
      Asks ((onWorld solver url json).solve package request) w [submission]) ∨
    ∃ handle n cause, Asks ((onWorld solver url json).solve package request) w
        (submission :: List.replicate (n + 1)
          (.statusCheck (Url.trimBase url) handle solver.adaptor)) ∧
      fault = .check (Url.poll solver.base handle) cause ∧
      cause.url = Url.poll (Url.trimBase url) handle := by
  intro submission
  obtain ⟨reply, hreply⟩ : ∃ reply, (submission.ask World.host.send).run w = reply := ⟨_, rfl⟩
  obtain ⟨checks, hasks, hchecks⟩ :=
    asks_fetch solver url json (hreply : _ = (reply.1, reply.2))
  have hrun : ((onWorld solver url json).fetch package request).run w =
      match solver.afterSubmit package reply.1 with
      | .error fault => (.error fault, reply.2)
      | .ok handle => ((onWorld solver url json).poll (solver.policy.start handle)).run
          (((onWorld solver url json).tell .initiated).run reply.2).2 :=
    run_fetch (onWorld solver url json) package request (by rw [submit_onWorld]; exact hreply)
  rw [fst_run_solve] at h
  rcases hchecks with ⟨rfl, other, htask⟩ | ⟨handle, n, htask, hpos, -, rfl⟩
  · rw [htask] at hrun
    rw [hrun] at h
    obtain rfl : other = fault := Except.error.inj h
    exact .inl ⟨hreply ▸ htask, asks_solve solver url json hasks⟩
  · obtain ⟨m, rfl⟩ := Nat.exists_eq_add_of_le' hpos
    rw [htask] at hrun
    rw [hrun] at h
    obtain ⟨cause, hfault, hurl⟩ := fault_of_poll h
    exact .inr ⟨handle, m, cause, asks_solve solver url json hasks, hfault, hurl⟩

end Pursuit

/-- How addresses are made, and which ones faults name.

An address under a base is what is left of the base without the slashes at its end, one slash, and
what follows; so it depends on nothing else of the base. A handle that does not start with two
slashes is joined like a path, and one that is an address is not joined at all.

Let a solver over HTTP have any base. However errands run beside each other on a desk, one whose
answer names no task made a submission last, which was sent, and the fault names the address that it
was posted to; one whose check failed made that check last, and both the fault and its cause name
the address that it was posted to. So it is for a solve alone, which asks for nothing after that. -/
theorem addresses_of_solver (url adaptor : String) (policy : PollPolicy) (w : World) :
    (∀ base, (∃! stem, Url.IsStem base stem) ∧ ∀ stem, Url.IsStem base stem →
      (∀ package, Url.solve base package = stem ++ "/" ++ ("package/" ++ package ++ "/solve")) ∧
      (∀ path, ∃ rest, Url.IsRest path rest ∧ Url.join base path = stem ++ "/" ++ rest) ∧
      (∀ handle, ¬ Url.isHttp handle →
        (∃ rest, Url.Unslashed handle rest ∧ Url.poll base handle = stem ++ "/" ++ rest) ∧
        (Url.poll base handle = Url.join base handle ↔ ¬ ['/', '/'] <+: handle.toList)) ∧
      ∀ handle, Url.isHttp handle → Url.poll base handle = handle) ∧
    let service := SolverService.overHttp World.host.send url
    let solver : Solver := ⟨service.base, adaptor, policy⟩
    (∀ (timer : Timer) (delay : List Call → Nat) (jobs : List Appointment) (i : Nat)
        (job : Appointment) address,
      let course := Schedule.run ⟨solver, timer⟩ (.inWorld service w delay) jobs
      (course.2[i]? = some ⟨job, .closed (.error (.noHandle address))⟩ →
        ∃ package request reply r, address = Url.solve url package ∧
          (course.1.exchanges i).getLast? = some (.submit package request, reply) ∧
          Posted service w course.1.calls (.submit package request, reply) r ∧
          HttpRequest.sent [r] = [r] ∧ r.url = address) ∧
      ∀ cause, course.2[i]? = some ⟨job, .closed (.error (.check address cause))⟩ →
        ∃ handle reply r, address = Url.poll url handle ∧
          (course.1.exchanges i).getLast? = some (.check handle adaptor, reply) ∧
          Posted service w course.1.calls (.check handle adaptor, reply) r ∧
          reply.answer = .error cause ∧ r.url = address ∧ cause.url = address) ∧
    ∀ (json : Bool) (package : String) (request : Request) address,
      let solve := (Pursuit.onWorld solver url json).solve package request
      ((solve.run w).1 = .error (.noHandle address) → ∃ r, Asks solve w [r] ∧
        HttpRequest.sent [r] = [r] ∧ r.method = .post ∧ r.url = address) ∧
      ∀ cause, (solve.run w).1 = .error (.check address cause) → ∃ first n r,
        Asks solve w (first :: List.replicate (n + 1) r) ∧ r.method = .post ∧ r.url = address ∧
          cause.url = address := by
  refine ⟨Url.joining, ?_⟩
  intro service solver
  have hbase : solver.base = Url.trimBase url := rfl
  refine ⟨fun timer delay jobs i job address => ?_, fun json package request address => ?_⟩
  · intro course
    obtain ⟨hserved, htells⟩ :=
      Schedule.accounted_run ⟨solver, timer⟩ (.inWorld service w delay) jobs
    refine ⟨fun hclosed => ?_, fun cause hclosed => ?_⟩
    · obtain ⟨package, request, reply, response, hlast, hanswer, haddress⟩ :=
        Solver.Blames.of_noHandle (htells i _ hclosed)
      have hposted : Posted service w course.1.calls (.submit package request, reply) _ :=
        .of_served hserved (List.mem_of_getLast? hlast)
      rw [hbase] at haddress
      exact ⟨package, request, reply, _, haddress.trans (Url.solve_trimBase url package), hlast,
        hposted, hposted.sent_eq hanswer, haddress.symm⟩
    · obtain ⟨handle, reply, hlast, hanswer, haddress⟩ :=
        Solver.Blames.of_check (htells i _ hclosed)
      have hposted : Posted service w course.1.calls (.check handle adaptor, reply) _ :=
        .of_served hserved (List.mem_of_getLast? hlast)
      rw [hbase] at haddress
      exact ⟨handle, reply, _, haddress.trans (Url.poll_trimBase url handle), hlast, hposted,
        hanswer, haddress.symm, (hposted.url_eq hanswer).trans haddress.symm⟩
  · intro solve
    refine ⟨fun hresult => ?_, fun cause hresult => ?_⟩
    · obtain ⟨htask, hasks⟩ | ⟨_, _, _, -, hfault, -⟩ := Pursuit.requests_of_solve_error hresult
      · obtain ⟨_, -, hfault⟩ | ⟨response, hanswer, -, hfault⟩ := Solver.afterSubmit_eq_error htask
        · cases hfault
        · rw [hbase] at hfault
          exact ⟨_, hasks, HttpRequest.sent_of_ask_ok hanswer, rfl,
            (SolveFault.noHandle.inj hfault).symm⟩
      · cases hfault
    · obtain ⟨htask, -⟩ | ⟨handle, n, other, hasks, hfault, hurl⟩ :=
        Pursuit.requests_of_solve_error hresult
      · obtain ⟨_, -, hfault⟩ | ⟨_, -, -, hfault⟩ := Solver.afterSubmit_eq_error htask <;>
          cases hfault
      · obtain ⟨haddress, rfl⟩ := SolveFault.check.inj hfault
        rw [hbase] at haddress
        exact ⟨_, n, _, hasks, rfl, haddress.symm, hurl.trans haddress.symm⟩

end PlanCourier

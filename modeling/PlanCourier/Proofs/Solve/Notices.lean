import PlanCourier.Proofs.Solve.Course

/-!
# What the user is told

The notices of a solve follow from what it hears and from its result: that the service took the
request, that the task is still running, once for every answer after which the loop goes on, and at
last how the solve ended, with the views of its outcome after that.

Main statements:

- `notices_of_polling`: the notices of a loop, one for each answer after which it goes on;
- `tells_last`: the last notice tells the results apart;
- `notices_of_solve`: the notices of a solve, whatever the service answers and whoever else runs.
-/

namespace PlanCourier

/-! ## Notices and checks in an account -/

/-- What the user is told by a deed, if anything. -/
def Deed.notice? : Deed → Option Notice
  | .told notice => some notice
  | _ => none

def Deed.check? : Deed → Option Reply
  | .called (.check ..) reply => some reply
  | _ => none

/-- The notices in an account, and when they came. -/
def notices (account : List (Nat × Deed)) : List (Nat × Notice) :=
  account.filterMap fun e => e.2.notice?.map (e.1, ·)

/-- The checks in an account: when they were sent, and the reply to each. -/
def checks (account : List (Nat × Deed)) : List (Nat × Reply) :=
  account.filterMap fun e => e.2.check?.map (e.1, ·)

section
variable (now : Nat) (account : List (Nat × Deed))

@[simp] theorem notices_called (call : Call) (reply : Reply) :
    notices ((now, .called call reply) :: account) = notices account := rfl

@[simp] theorem notices_told (notice : Notice) :
    notices ((now, .told notice) :: account) = (now, notice) :: notices account := rfl

@[simp] theorem checks_submitted (package : String) (request : Request) (reply : Reply) :
    checks ((now, .called (.submit package request) reply) :: account) = checks account := rfl

@[simp] theorem checks_checked (handle adaptor : String) (reply : Reply) :
    checks ((now, .called (.check handle adaptor) reply) :: account) =
      (now, reply) :: checks account := rfl

@[simp] theorem checks_told (notice : Notice) :
    checks ((now, .told notice) :: account) = checks account := rfl

variable (job : Appointment) (result : Except SolveFault Outcome)

@[simp] theorem checks_close : checks (job.close now result) = [] := by
  simp only [checks, Appointment.close, Run.closing, List.map_append, List.filterMap_append]
  split <;> simp [Deed.check?, List.filterMap_map, Function.comp_def]

theorem notices_close (h : job.errand.isTold = true) :
    notices (job.close now result) = (Notice.closing result).map (now, ·) := by
  simp [notices, Appointment.close, Run.closing, h, Deed.notice?, List.filterMap_map,
    Function.comp_def]

end

/-! ## The loop -/

/-- Whether an answer leaves the task running. -/
def Reply.isPending (r : Reply) : Bool :=
  match r.answer with
  | .ok response => !(Answer.ofJson response).isTerminal
  | .error _ => false

/-- Whether a loop goes on waiting after its check of this index: the answer leaves the task
running, the loop is not stopped before it comes, and the budget allows another check. -/
def Solver.goesOn (s : Solver) (job : Appointment) (sent : Nat) (reply : Reply) (index : Nat) :
    Bool :=
  reply.isPending && (job.cut sent (sent + reply.delay)).isNone &&
    decide (index + 1 < max 1 s.policy.budget.toNat)

/-- The notices that a loop gives on its way, after checks of which the first one has this index. -/
def Solver.progress (s : Solver) (job : Appointment) (index : Nat) (sent : List (Nat × Reply)) :
    List (Nat × Notice) :=
  ((sent.zipIdx index).filter fun c => s.goesOn job c.1.1 c.1.2 c.2).map fun c =>
    (c.1.1 + c.1.2.delay, .stillSolving s.policy)

theorem Reply.isPending_eq (r : Reply) (s : Solver) (handle : String) :
    r.isPending = (s.verdict handle r.answer).isNone := by
  unfold isPending Solver.verdict
  cases r.answer with
  | error cause => rfl
  | ok response =>
    dsimp only
    unfold Answer.ofJson
    split <;> simp_all [Answer.isTerminal]

namespace Solver

variable {s : Solver} {job : Appointment} {a b : Attempt} {sent : Nat} {reply : Reply}

theorem goesOn_of_wait (hb : a.budget = s.policy.budget)
    (hn : a.number.toNat < max 1 a.budget.toNat) (hc : job.cut sent (sent + reply.delay) = none)
    (h : s.afterCheck a reply.answer = .wait b) :
    s.goesOn job sent reply a.number.toNat = true := by
  obtain ⟨hv, hx, -⟩ := afterCheck_eq_wait.1 h
  have hlt := mt (Attempt.isExhausted_next hn).2 (by simp [hx])
  rw [hb] at hn hlt
  simp only [goesOn, Reply.isPending_eq reply s a.handle, hv, hc, Option.isNone_none,
    Bool.and_self, Bool.true_and, decide_eq_true_eq]
  omega

theorem not_goesOn_of_ended {result : Except SolveFault Outcome} (hb : a.budget = s.policy.budget)
    (hn : a.number.toNat < max 1 a.budget.toNat) (h : s.afterCheck a reply.answer = .ended result) :
    s.goesOn job sent reply a.number.toNat = false := by
  rcases afterCheck_eq_ended.1 h with hv | ⟨-, hx, -⟩
  · simp [goesOn, Reply.isPending_eq reply s a.handle, hv]
  · have he := (Attempt.isExhausted_next hn).1 hx
    rw [hb] at he
    simp [goesOn, he]

theorem not_goesOn_of_cut {now index : Nat} (hc : job.cut sent (sent + reply.delay) = some now) :
    s.goesOn job sent reply index = false := by
  simp [goesOn, hc]

theorem progress_cons_true {index : Nat} (h : s.goesOn job sent reply index = true)
    (rest : List (Nat × Reply)) : s.progress job index ((sent, reply) :: rest) =
      (sent + reply.delay, .stillSolving s.policy) :: s.progress job (index + 1) rest := by
  simp [progress, h]

theorem progress_cons_false {index : Nat} (h : s.goesOn job sent reply index = false)
    (rest : List (Nat × Reply)) :
    s.progress job index ((sent, reply) :: rest) = s.progress job (index + 1) rest := by
  simp [progress, h]

end Solver

/-- A loop that tells the user says after each answer after which it goes on that the task is still
running, and at its end how it ended. -/
theorem notices_of_polling {s : TimedSolver} {job : Appointment} (ht : job.errand.isTold = true)
    {last : Nat} {a : Attempt} {deeds : List (Nat × Deed)} {result : Except SolveFault Outcome}
    (h : Polling s job last a deeds result) (hb : a.budget = s.policy.budget)
    (hn : a.number.toNat < max 1 a.budget.toNat) :
    ∃ finish, deeds.getLast? = some (finish, .ended (result.map .outcome)) ∧
      notices deeds = s.progress job a.number.toNat (checks deeds) ++
        (Notice.closing result).map (finish, ·) := by
  -- by induction on the course; the number of the attempt is the index of the next check
  induction h with
  | @idle last now a h =>
    refine ⟨now, job.getLast?_close .., ?_⟩
    rw [notices_close now job _ ht, checks_close]
    rfl
  | @unheard last sent now a reply _ _ h =>
    refine ⟨now, by simp [List.getLast?_cons, Appointment.getLast?_close], ?_⟩
    rw [notices_called, notices_close now job _ ht, checks_checked, checks_close,
      Solver.progress_cons_false (Solver.not_goesOn_of_cut h)]
    rfl
  | @settled last sent a reply result _ _ _ h =>
    refine ⟨sent + reply.delay, by simp [List.getLast?_cons, Appointment.getLast?_close], ?_⟩
    rw [notices_called, notices_close _ job _ ht, checks_checked, checks_close,
      Solver.progress_cons_false (Solver.not_goesOn_of_ended hb hn h)]
    rfl
  | @again last sent a b reply deeds result _ _ hc h rest ih =>
    have hgo := Solver.goesOn_of_wait hb hn hc h
    obtain ⟨-, hx, rfl⟩ := Solver.afterCheck_eq_wait.1 h
    have hnext := Attempt.toNat_next_of_lt hn
    obtain ⟨finish, hlast, hnotices⟩ := ih hb (Attempt.next_lt_of_not_isExhausted hn hx)
    refine ⟨finish, by simp [List.getLast?_cons, hlast], ?_⟩
    rw [notices_called, notices_told, hnotices, hnext, checks_checked, checks_told,
      Solver.progress_cons_true hgo, List.cons_append]

/-! ## The last notice -/

def Notice.last : Except SolveFault Outcome → Notice
  | .ok outcome => .ending outcome
  | .error fault => .error fault.message

def View.ofResult : Except SolveFault Outcome → List View
  | .ok outcome => View.ofOutcome outcome
  | .error _ => []

theorem Notice.closing_eq (result : Except SolveFault Outcome) :
    closing result = last result :: (View.ofResult result).map .view := by
  cases result <;> rfl

/-- How the wordings of the faults begin. -/
def SolveFault.beginnings : List String :=
  ["Submission failed: ", "Submit response from ", "Error: Malformed URL? ", "Task ",
    "Package listing failed: ", "Unknown package: ", "Invalid value '", "Document not found: ",
    "Failed to read document ", "Need a domain and a problem document, got: ",
    "Solve task aborted: "]

theorem SolveFault.exists_beginning (fault : SolveFault) :
    ∃ b ∈ beginnings, ∃ rest, fault.message = b ++ rest := by
  cases fault with
  | submission cause => exact ⟨"Submission failed: ", by simp [beginnings], _, rfl⟩
  | noHandle url =>
    exact ⟨"Submit response from ", by simp [beginnings], url ++ " did not contain a task handle",
      String.append_assoc ..⟩
  | check url cause => exact ⟨"Error: Malformed URL? ", by simp [beginnings], _, rfl⟩
  | alreadyPolling handle =>
    exact ⟨"Task ", by simp [beginnings], handle ++ " is already being polled",
      String.append_assoc ..⟩
  | listing cause => exact ⟨"Package listing failed: ", by simp [beginnings], _, rfl⟩
  | unknownPackage name => exact ⟨"Unknown package: ", by simp [beginnings], _, rfl⟩
  | badParameter name value expected =>
    refine ⟨"Invalid value '", by simp [beginnings], value ++ ("' for parameter '" ++ (name ++
      ("', expected one of: " ++ expected))), ?_⟩
    unfold message
    simp only [String.append_assoc]
  | document fault =>
    cases fault with
    | notFound id => exact ⟨"Document not found: ", by simp [beginnings], _, rfl⟩
    | unreadable id reason =>
      refine ⟨"Failed to read document ", by simp [beginnings], id ++ (": " ++ reason), ?_⟩
      unfold message DocumentFault.message
      simp only [String.append_assoc]
    | incomplete found =>
      exact ⟨"Need a domain and a problem document, got: ", by simp [beginnings], _, rfl⟩
  | aborted reason => exact ⟨"Solve task aborted: ", by simp [beginnings], _, rfl⟩

/-- Texts that begin differently are different. -/
theorem append_ne_append {a b : String} (ha : 2 ≤ a.toList.length) (hb : 2 ≤ b.toList.length)
    (h : a.toList.take 2 ≠ b.toList.take 2) (x y : String) : a ++ x ≠ b ++ y := by
  intro he
  have hlist := congrArg (fun t => t.toList.take 2) he
  simp only [String.toList_append, List.take_append_of_le_length ha,
    List.take_append_of_le_length hb] at hlist
  exact h hlist

theorem SolveFault.message_ne (fault : SolveFault) {a : String} (ha : 2 ≤ a.toList.length)
    (h : ∀ b ∈ beginnings, 2 ≤ b.toList.length ∧ b.toList.take 2 ≠ a.toList.take 2)
    (x : String) : fault.message ≠ a ++ x := by
  obtain ⟨b, hb, rest, hm⟩ := fault.exists_beginning
  rw [hm]
  exact append_ne_append (h b hb).1 ha (h b hb).2 rest x

def timeoutText (attempts : UInt32) : String :=
  "Timed out waiting for a plan after " ++ Text.naturalText attempts.toNat ++ " status checks"

theorem timeoutText_inj {m n : UInt32} : timeoutText m = timeoutText n ↔ m = n := by
  constructor
  · intro h
    unfold timeoutText at h
    have hlist := congrArg String.toList h
    simp only [Text.naturalText, String.toList_append, String.toList_ofList,
      List.append_cancel_left_eq, List.append_cancel_right_eq, Text.natural_inj] at hlist
    exact UInt32.toNat_inj.1 hlist
  · exact congrArg timeoutText

theorem timeoutText_eq (n : UInt32) : timeoutText n =
    "Timed out waiting for a plan after " ++
      (Text.naturalText n.toNat ++ " status checks") := String.append_assoc ..

theorem timeoutText_ne (n : UInt32) : timeoutText n ≠ "Planning failed." := by
  rw [timeoutText_eq, ← String.append_empty (s := "Planning failed.")]
  exact append_ne_append (by decide) (by decide) (by decide) _ _

theorem SolveFault.message_ne_failed (fault : SolveFault) :
    fault.message ≠ "Planning failed." := by
  rw [← String.append_empty (s := "Planning failed.")]
  exact fault.message_ne (by decide) (by decide) _

theorem SolveFault.message_ne_timeout (fault : SolveFault) (n : UInt32) :
    fault.message ≠ timeoutText n := by
  rw [timeoutText_eq]
  exact fault.message_ne (by decide) (by decide) _

/-- What the last notice says, and the views after it show, is how the solve ended. -/
structure Tells (result : Except SolveFault Outcome) (last : Notice) (views : List View) :
    Prop where
  ready : last = .success "Plan is ready" ↔ ∃ plans, result = .ok (.succeeded plans)
  failed : last = .error "Planning failed." ↔ ∃ failure, result = .ok (.failed failure)
  timedOut : ∀ attempts, last = .error (timeoutText attempts) ↔ result = .ok (.timedOut attempts)
  cancelled : last = .info "Solve cancelled" ↔ result = .ok .cancelled
  /-- A fault is told in its own words. -/
  fault : (∃ fault : SolveFault, last = .error fault.message) ↔ ∃ fault, result = .error fault
  message : ∀ fault, result = .error fault → last = .error fault.message
  /-- Of plans each is shown, with its place among them. -/
  plans : ∀ plans, result = .ok (.succeeded plans) →
    views = plans.mapIdx fun j p => .plan (j + 1) plans.length p.names p.output
  diagnostic : ∀ failure, result = .ok (.failed failure) →
    views = [.diagnostic (View.diagnosticText failure)]
  nothing : (∀ plans, result ≠ .ok (.succeeded plans)) →
    (∀ failure, result ≠ .ok (.failed failure)) → views = []

theorem View.plansFrom_eq_mapIdx (index total : Nat) (plans : List Plan) :
    plansFrom index total plans =
      plans.mapIdx fun j p => .plan (j + index) total p.names p.output := by
  induction plans generalizing index with
  | nil => rfl
  | cons p rest ih =>
    rw [plansFrom, ih, List.mapIdx_cons, Nat.zero_add]
    simp only [Nat.add_assoc, Nat.add_comm 1 index]

theorem tells_last (result : Except SolveFault Outcome) :
    Tells result (Notice.last result) (View.ofResult result) := by
  cases result with
  | error fault =>
    have hf := fault.message_ne_failed
    have ht := fault.message_ne_timeout
    constructor <;> simp [Notice.last, View.ofResult, hf, ht]
  | ok outcome =>
    cases outcome with
    | succeeded plans =>
      have hv : View.plans plans = _ := View.plansFrom_eq_mapIdx 1 plans.length plans
      constructor <;> simp [Notice.last, Notice.ending, View.ofResult, View.ofOutcome, hv]
    | failed failure =>
      have hf := fun fault => (SolveFault.message_ne_failed fault).symm
      have ht := fun n => (timeoutText_ne n).symm
      constructor <;> simp [Notice.last, Notice.ending, View.ofResult, View.ofOutcome, hf, ht]
    | timedOut attempts =>
      have he : Notice.last (.ok (.timedOut attempts)) = .error (timeoutText attempts) := rfl
      have hf := fun fault => (SolveFault.message_ne_timeout fault attempts).symm
      have ht := timeoutText_ne attempts
      constructor <;> simp [he, View.ofResult, View.ofOutcome, hf, ht, timeoutText_inj]
    | cancelled =>
      constructor <;> simp [Notice.last, Notice.ending, View.ofResult, View.ofOutcome]

/-! ## The whole solve -/

/-- The notices with which a solve begins: that its submission led to a task, if it did. -/
def Solver.opening (s : Solver) (package : String) (start : Nat) (first : Reply) :
    List (Nat × Notice) :=
  match s.afterSubmit package first.answer with
  | .ok _ => [(start + first.delay, .success "Task initiated!")]
  | .error _ => []

/-- What the user is told and shown agrees with what a solve brings back, whatever the service
answers, whenever the solve is stopped and whoever else polls its task. First comes the notice that
the submission led to a task, if it did. Then comes a notice for every answer after which the loop
goes on, and for no other one. Then comes the notice that says how the solve ended, and after it,
in their order, the views of the outcome. -/
theorem notices_of_solve (s : TimedSolver) (service : TimedService) (jobs : List Appointment)
    (i : Nat) (package : String) (request : Request) (start : Nat) (stop : Option Nat)
    (hjob : jobs[i]? = some (.solve package request start stop)) :
    let course := Schedule.run s service jobs
    let account := course.1.account i
    ∃ (first : Reply) (finish : Nat) (result : Except SolveFault Outcome) (last : Notice)
        (views : List View),
      course.2[i]? = some ⟨.solve package request start stop, .closed (result.map .outcome)⟩ ∧
      account.head? = some (start, .called (.submit package request) first) ∧
      account.getLast? = some (finish, .ended (result.map .outcome)) ∧
      notices account = s.opening package start first ++
        s.progress (.solve package request start stop) 0 (checks account) ++
          (finish, last) :: views.map (fun view => (finish, .view view)) ∧
      views = View.ofResult result ∧ Tells result last views := by
  intro course account
  obtain ⟨deeds, result, hs, haccount, hruns, -⟩ :=
    Schedule.exists_solving_run s service hjob
  have hclosing : ∀ finish : Nat, (Notice.closing result).map (finish, ·) =
      (finish, Notice.last result) ::
        (View.ofResult result).map fun view => (finish, .view view) := by
    intro finish
    rw [Notice.closing_eq, List.map_cons, List.map_map]
    rfl
  have htold : (Appointment.solve package request start stop).errand.isTold = true := rfl
  rw [show account = deeds from haccount]
  cases hs with
  | @unstarted first fault h =>
    refine ⟨first, start + first.delay, _, _, _, hruns, rfl, ?_, ?_, rfl, tells_last _⟩
    · rw [List.getLast?_cons, Appointment.getLast?_close]
      rfl
    · rw [notices_called, notices_close _ _ _ htold, checks_submitted, checks_close, hclosing]
      simp [Solver.opening, h, Solver.progress]
  | @refused first handle h =>
    refine ⟨first, start + first.delay, _, _, _, hruns, rfl, ?_, ?_, rfl, tells_last _⟩
    · rw [List.getLast?_cons, List.getLast?_cons, Appointment.getLast?_close]
      rfl
    · rw [notices_called, notices_told, notices_close _ _ _ htold, checks_submitted, checks_told,
        checks_close, hclosing]
      simp [Solver.opening, h, Solver.progress, Notice.initiated]
  | @polled first handle deeds _ h rest =>
    have hn : (s.policy.start handle).number.toNat <
        max 1 (s.policy.start handle).budget.toNat :=
      Nat.lt_of_lt_of_le Nat.one_pos (Nat.le_max_left 1 _)
    obtain ⟨finish, hlast, hnotices⟩ := notices_of_polling htold rest rfl hn
    refine ⟨first, finish, _, _, _, hruns, rfl, ?_, ?_, rfl, tells_last _⟩
    · rw [List.getLast?_cons, List.getLast?_cons, hlast]
      rfl
    · rw [notices_called, notices_told, hnotices, checks_submitted, checks_told, hclosing,
        show (s.policy.start handle).number.toNat = 0 from rfl]
      simp [Solver.opening, h, Notice.initiated]

/-- A solve that is stopped after its first check says so at last. -/
theorem told_of_stop :
    (Schedule.run Sample.solver Sample.service [Sample.job (some 7500)]).2[0]? =
      some ⟨Sample.job (some 7500), .closed (.ok (.outcome .cancelled))⟩ ∧
    (notices ((Schedule.run Sample.solver Sample.service
      [Sample.job (some 7500)]).1.account 0)).getLast?.map Prod.snd =
        some (.info "Solve cancelled") := by
  have hcancelled : (Schedule.run Sample.solver Sample.service [Sample.job (some 7500)]).2[0]? =
      some ⟨Sample.job (some 7500), .closed (.ok (.outcome .cancelled))⟩ := by decide +kernel
  obtain ⟨first, finish, result, last, views, hruns, -, -, hnotices, -, htells⟩ :=
    notices_of_solve Sample.solver Sample.service [Sample.job (some 7500)] 0 _ _ _ _ rfl
  have hresult : result = .ok .cancelled := by
    have he := hcancelled.symm.trans hruns
    cases result with
    | error fault => simp [Except.map] at he
    | ok outcome =>
      obtain ⟨-, rfl⟩ : _ ∧ Outcome.cancelled = outcome := by simpa [Except.map] using he
      rfl
  refine ⟨hcancelled, ?_⟩
  rw [hnotices, htells.cancelled.2 hresult,
    htells.nothing (by simp [hresult]) (by simp [hresult])]
  simp

end PlanCourier

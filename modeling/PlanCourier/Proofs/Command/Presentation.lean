import PlanCourier.Proofs.Command.Documents
import PlanCourier.Proofs.Json.Members

/-!
# The presentation of a run

Two runs of one command line, of which only the second one has its output in JSON. What a run is to
do does not depend on how it shows things: up to the end of a solve the two runs take the same
actions, and at the end of it they differ only in what they write. So they ask for the same things,
leave the same files and exit with the same code. What the first run shows of a solve, view by view,
the second one has in its report.

Main statements:

- `Pursuit.fetch_tell`: what a solve is to do does not depend on how its views are shown;
- `Invocation.alike_conclude`: the two runs come to the same conclusion;
- `Invocation.presented_conclude`: what a solve shows before its conclusion is printed;
- `runs_of_two_presentations`: the two runs side by side.
-/

namespace PlanCourier

/-- The command line with its output in JSON or in words. -/
def Invocation.withJson (json : Bool) (i : Invocation) : Invocation :=
  { i with options := { i.options with json } }

/-- The lines that show a view in words. -/
def View.printed (v : View) : List String := ((Notice.view v).shown false).1

/-! ## Actions that differ in what they write -/

namespace World

/-- The world but for what was written. -/
def unwritten (w : World) : World := { w with output := [], messages := [] }

theorem ignoresLines_unwritten : IgnoresLines unwritten := fun _ _ _ => rfl

/-- Worlds that differ only in what was written agree on everything else. -/
theorem agree_of_unwritten {w w' : World} (h : w.unwritten = w'.unwritten) :
    w.files = w'.files ∧ w.traffic = w'.traffic ∧ w.clock = w'.clock := by
  simp only [unwritten, mk.injEq] at h
  exact ⟨h.1, h.2.2.1, h.2.2.2.1⟩

/-- From every world the two actions come to the same result, and to worlds that differ at most in
what was written. -/
structure Alike (x y : StateM World α) : Prop where
  result : ∀ w, (x.run w).1 = (y.run w).1
  world : ∀ w, (x.run w).2.unwritten = (y.run w).2.unwritten

namespace Alike

theorem refl (x : StateM World α) : Alike x x := ⟨fun _ => rfl, fun _ => rfl⟩

/-- The actions may differ from some point on. -/
theorem after (x : StateM World α) {f g : α → StateM World β} (h : ∀ a, Alike (f a) (g a)) :
    Alike (x >>= f) (x >>= g) := by
  constructor
  · intro w
    exact (h (x.run w).1).result (x.run w).2
  · intro w
    exact (h (x.run w).1).world (x.run w).2

/-- What is made of the result in the end is the same in both. -/
theorem map {x y : StateM World α} (h : Alike x y) (g : α → β) :
    Alike (x >>= fun a => pure (g a)) (y >>= fun a => pure (g a)) :=
  ⟨fun w => congrArg g (h.result w), fun w => h.world w⟩

end Alike

end World

open World (Alike Keeps Unmoved)

/-! ## A solve -/

namespace Pursuit

variable {m : Type → Type} [Monad m] {solver : Solver} {service : SolverService m}
  {wait : Nat → m Unit} {tell tell' : Notice → m Unit}

theorem poll_tell (h : ∀ p, tell (.stillSolving p) = tell' (.stillSolving p)) (a : Attempt) :
    poll ⟨solver, service, wait, tell⟩ a = poll ⟨solver, service, wait, tell'⟩ a := by
  -- by induction on what is left of the budget, as for every statement about the loop
  induction hleft : a.left using Nat.strongRecOn generalizing a with
  | ind left ih =>
    rw [poll_eq, poll_eq]
    dsimp only
    congr 1
    funext _
    congr 1
    funext answer
    split
    next => rfl
    next b hnext =>
      rw [h]
      congr 1
      funext _
      exact ih b.left (hleft ▸ Solver.left_lt_of_afterCheck hnext) b rfl

/-- Up to its end a solve tells only that it was begun and that it goes on. -/
theorem fetch_tell (hinitiated : tell .initiated = tell' .initiated)
    (hsolving : ∀ p, tell (.stillSolving p) = tell' (.stillSolving p))
    (package : String) (request : Request) :
    fetch ⟨solver, service, wait, tell⟩ package request =
      fetch ⟨solver, service, wait, tell'⟩ package request := by
  unfold fetch
  dsimp only
  rw [hinitiated]
  congr 1
  funext answer
  split
  · rfl
  · congr 1
    funext _
    exact poll_tell hsolving _

end Pursuit

namespace SolveOrder

section Presentations

variable {m : Type → Type} [Monad m] (h : Host m) (c : CommandContext) (package : String)
  (started : Moment) (request : Request)

def pursuit (json : Bool) : Pursuit m :=
  let service := SolverService.overHttp h.send c.session.baseUrl
  ⟨⟨service.base, c.config.service.adaptor, c.config.poll.policy⟩, service, h.wait, tell h json⟩

/-- What is concluded from the result of a solve. -/
def settle : Except SolveFault Outcome → m Conclusion
  | .error cause => return .failed (.noOutcome cause)
  | .ok outcome =>
    return conclude ⟨package, c.session.baseUrl, outcome, View.ofOutcome outcome, started,
      ← h.now⟩

theorem fetch_pursuit (json : Bool) :
    (pursuit h c json).fetch package request = (pursuit h c true).fetch package request := by
  unfold pursuit
  apply Pursuit.fetch_tell
  · rfl
  · intro p
    rfl

/-- A solve comes to its result in the same way in both presentations; how it ended is told after
that. -/
theorem pursue_eq [LawfulMonad m] (json : Bool) : pursue h c json package started request = (do
    let result ← (pursuit h c true).fetch package request
    (pursuit h c json).tellAll (Notice.closing result)
    settle h c package started result) := by
  have hpursue : pursue h c json package started request =
      (pursuit h c json).solve package request >>= settle h c package started := by
    unfold pursue
    congr 1
  rw [hpursue, Pursuit.solve, fetch_pursuit]
  simp only [bind_assoc, pure_bind]

end Presentations

variable (c : CommandContext) (package : String) (started : Moment) (request : Request)

theorem alike_settle (result : Except SolveFault Outcome) {x y : StateM World Unit}
    (hx : Keeps World.unwritten x) (hy : Keeps World.unwritten y) :
    Alike (x >>= fun _ => settle World.host c package started result)
      (y >>= fun _ => settle World.host c package started result) := by
  have hworld (w : World) : (x.run w).2.unwritten = (y.run w).2.unwritten :=
    (hx.kept w).trans (hy.kept w).symm
  cases result with
  | error cause => exact ⟨fun _ => rfl, hworld⟩
  | ok outcome =>
    refine ⟨fun w => ?_, hworld⟩
    have hclock := (World.agree_of_unwritten (hworld w)).2.2
    show conclude ⟨_, _, _, _, _, (x.run w).2.clock⟩ = conclude ⟨_, _, _, _, _, (y.run w).2.clock⟩
    rw [hclock]

theorem alike_pursue : Alike (pursue World.host c false package started request)
    (pursue World.host c true package started request) := by
  rw [pursue_eq, pursue_eq]
  apply Alike.after
  intro result
  have hkeeps (json : Bool) :
      Keeps World.unwritten ((pursuit World.host c json).tellAll (Notice.closing result)) :=
    Pursuit.keeps_tellAll (Keeps.tell World.ignoresLines_unwritten json) _
  exact alike_settle c package started result (hkeeps false) (hkeeps true)

theorem alike_carryOut (o : SolveOrder) :
    Alike (o.carryOut World.host c false) (o.carryOut World.host c true) := by
  apply Alike.after
  intro started
  apply Alike.after
  intro built
  split
  · exact .refl _
  · apply Alike.after
    intro settled
    dsimp only
    split
    · exact .refl _
    · exact alike_pursue c _ _ _

end SolveOrder

/-! ## A whole run -/

namespace Command

/-- Of the commands only `solve` shows anything before its end. -/
theorem execute_eq {m : Type → Type} [Monad m] (h : Host m) (c : CommandContext)
    {command : Command} (hcommand : ∀ o, command ≠ .solve o) :
    command.execute h c false = command.execute h c true := by
  cases command with
  | solve order => exact absurd rfl (hcommand order)
  | domains wanted => cases wanted <;> rfl
  | _ => rfl

theorem alike_execute (c : CommandContext) (command : Command) :
    Alike (command.execute World.host c false) (command.execute World.host c true) := by
  by_cases hsolve : ∃ o, command = .solve o
  · obtain ⟨order, rfl⟩ := hsolve
    exact order.alike_carryOut c
  · rw [execute_eq World.host c (not_exists.1 hsolve)]
    exact .refl _

end Command

namespace Invocation

variable (env : Environment) (i : Invocation)

theorem alike_carryOut (config : Config) : Alike ((i.withJson false).carryOut World.host config)
    ((i.withJson true).carryOut World.host config) := by
  apply Alike.after
  intro kept
  exact Command.alike_execute _ _

theorem alike_conclude : Alike ((i.withJson false).conclude World.host env)
    ((i.withJson true).conclude World.host env) := by
  show Alike (i.loadConfig World.host env >>= _) (i.loadConfig World.host env >>= _)
  apply Alike.after
  intro loaded
  cases loaded with
  | error fault => exact .refl _
  | ok config =>
    apply Alike.after
    intro now
    apply Alike.after
    intro opened
    cases opened with
    | error fault => exact .refl _
    | ok => exact (i.alike_carryOut config).map Except.ok

theorem alike_run : Alike ((i.withJson false).run World.host env)
    ((i.withJson true).run World.host env) := by
  have halike := i.alike_conclude env
  have hview (json : Bool) (w : World) :
      (((i.withJson json).run World.host env).run w).2.unwritten =
        (((i.withJson json).conclude World.host env).run w).2.unwritten := by
    cases h : (((i.withJson json).conclude World.host env).run w).1 with
    | error fault => rw [run_of_error h, (Keeps.abort World.ignoresLines_unwritten _).kept]
    | ok c => rw [run_of_ok h, (Keeps.print World.ignoresLines_unwritten _ _).kept]
  refine ⟨fun w => ?_, fun w => (hview _ w).trans ((halike.world w).trans (hview _ w).symm)⟩
  -- the code to exit with is a matter of what the run comes to
  cases h : (((i.withJson true).conclude World.host env).run w).1 with
  | error fault =>
    rw [run_of_error h, run_of_error ((halike.result w).trans h), World.code_abort, World.code_abort]
  | ok c =>
    rw [run_of_ok h, run_of_ok ((halike.result w).trans h), World.code_print, World.code_print]

end Invocation

/-! ## What a solve shows -/

/-- What a solve in words has output when it is concluded: nothing if it fails, else its views. -/
inductive SolveOrder.Presented (before : List String) : Conclusion × World → Prop
  | failed {fault : CommandFault} {w : World} (h : w.output = before) :
    Presented before (.failed fault, w)
  | solved {r : SolveReport} {w : World}
    (h : w.output = before ++ r.views.flatMap View.printed) : Presented before (conclude r, w)

namespace World

/-- From every world the action has presented the solve that it concludes. -/
structure Presents (x : StateM World Conclusion) : Prop where
  presented : ∀ w : World, SolveOrder.Presented w.output (x.run w)

namespace Presents

theorem failed (fault : CommandFault) : Presents (pure (.failed fault)) := ⟨fun _ => .failed rfl⟩

/-- Nothing is output before. -/
theorem after {x : StateM World α} {f : α → StateM World Conclusion}
    (hx : Keeps World.output x) (hf : ∀ a, Presents (f a)) : Presents (x >>= f) := by
  constructor
  intro w
  have h := (hf (x.run w).1).presented (x.run w).2
  rwa [hx.kept] at h

end Presents

theorem output_tell (n : Notice) (w : World) :
    ((SolveOrder.tell host false n).run w).2.output = w.output ++ (n.shown false).1 := by
  have h : (SolveOrder.tell host false n).run w =
    (Conclusion.writeAll host.err (n.shown false).2).run
      ((Conclusion.writeAll host.out (n.shown false).1).run w).2 := rfl
  rw [h, (Keeps.writeAll Keeps.err _).kept, output_writeAll]

theorem output_tellAll (c : CommandContext) (notices : List Notice) (w : World) :
    (((SolveOrder.pursuit host c false).tellAll notices).run w).2.output =
      w.output ++ notices.flatMap fun n => (n.shown false).1 := by
  induction notices generalizing w with
  | nil => exact (List.append_nil _).symm
  | cons n rest ih =>
    have h : ((SolveOrder.pursuit host c false).tellAll (n :: rest)).run w =
      ((SolveOrder.pursuit host c false).tellAll rest).run
        ((SolveOrder.tell host false n).run w).2 := rfl
    rw [h, ih, output_tell, List.append_assoc, List.flatMap_cons]

end World

open World (Presents)

theorem Notice.shown_closing (outcome : Outcome) :
    ((closing (.ok outcome)).flatMap fun n => (n.shown false).1) =
      (View.ofOutcome outcome).flatMap View.printed := by
  have hending : ((ending outcome).shown false).1 = [] := by cases outcome <;> rfl
  rw [closing, List.flatMap_cons, hending, List.nil_append, List.flatMap_map]
  rfl

namespace SolveOrder

variable (c : CommandContext)

theorem presents_pursue (package : String) (started : Moment) (request : Request) :
    Presents (pursue World.host c false package started request) := by
  have hunmoved := World.unmoved_output c.config.catalog.apiUrl c.session.baseUrl
  have hfetch : Keeps World.output ((pursuit World.host c true).fetch package request) := by
    unfold pursuit
    apply Pursuit.keeps_fetch
    exact ⟨SolverService.keeps_submit hunmoved, SolverService.keeps_check hunmoved, hunmoved.wait,
      Keeps.tell_json⟩
  rw [pursue_eq]
  apply Presents.after hfetch
  intro result
  constructor
  intro w
  have htold := World.output_tellAll c (Notice.closing result) w
  cases result with
  | error cause => exact .failed (htold.trans (List.append_nil _))
  | ok outcome =>
    rw [Notice.shown_closing] at htold
    exact .solved htold

theorem presents_carryOut (o : SolveOrder) : Presents (o.carryOut World.host c false) := by
  have hunmoved := World.unmoved_output c.config.catalog.apiUrl c.session.baseUrl
  have hlisting := SolverService.keeps_listing hunmoved
  refine Presents.after Keeps.now fun started => Presents.after (keeps_request hunmoved o) ?_
  intro built
  split
  · exact .failed _
  · apply Presents.after (Catalog.keeps_reading hlisting _)
    intro settled
    dsimp only
    split
    · exact .failed _
    · exact presents_pursue c _ _ _

theorem lines_conclude (r : SolveReport) : (conclude r).lines false = [r.text] := by
  unfold conclude
  split <;> rfl

theorem exists_lines_conclude (r : SolveReport) :
    ∃ rest, (conclude r).lines true = r.toJson.prettyText :: rest := by
  unfold conclude
  split <;> exact ⟨_, rfl⟩

end SolveOrder

namespace Invocation

variable {env : Environment} {i : Invocation} {w : World}

/-- Before a solve is concluded in words, its views are output and nothing else. -/
theorem presented_conclude {o : SolveOrder} {c : Conclusion} (hsolve : i.command = .solve o)
    (h : (((i.withJson false).conclude World.host env).run w).1 = .ok c) :
    SolveOrder.Presented w.output (c, (((i.withJson false).conclude World.host env).run w).2) := by
  cases hloaded : (((i.withJson false).loadConfig World.host env).run w).1 with
  | error fault =>
    rw [run_conclude_of_fault hloaded] at h ⊢
    obtain rfl := Except.ok.inj h
    exact .failed rfl
  | ok config =>
    have hstarted := view_started World.ignoresFiles_output config w
    cases hlog : (opened config w).1 with
    | error fault =>
      rw [run_conclude_of_unopened hloaded hlog] at h
      cases h
    | ok =>
      rw [run_conclude_of_opened hloaded hlog] at h ⊢
      obtain rfl := Except.ok.inj h
      have hpresents := SolveOrder.presents_carryOut ((i.withJson false).context config w) o
      rw [← hstarted]
      show SolveOrder.Presented _ ((i.command.execute World.host _ false).run _)
      rw [hsolve]
      exact hpresents.presented _

theorem output_run_eq {c : Conclusion} (h : ((i.conclude World.host env).run w).1 = .ok c) :
    ((i.run World.host env).run w).2.output =
      ((i.conclude World.host env).run w).2.output ++ c.lines i.options.json := by
  rw [run_of_ok h, World.output_print]

/-- In both presentations, a run whose log cannot be opened writes no output. -/
theorem output_run_of_unopened {config : Config} {fault : LogFile.Fault}
    (h : ((i.loadConfig World.host env).run w).1 = .ok config)
    (hlog : (opened config w).1 = .error fault) :
    ((i.run World.host env).run w).2.output = w.output := by
  have hconclude := run_conclude_of_unopened h hlog
  rw [run_of_error (congrArg Prod.fst hconclude), hconclude]
  exact view_started World.ignoresFiles_output config w

end Invocation

theorem SolveReport.get?_views (r : SolveReport) :
    r.toJson.get? "views" = some (.list (r.views.map View.toJson)) := by
  show (Json.sortMembers _).lookup "views" = _
  rw [Json.lookup_sortMembers, List.reverse_append]
  simp [List.lookup_cons]

/-- The command line of the order to solve a problem that the service fetches itself. -/
def Sample.hostedWords : List String :=
  ["solve", "--urls", "--domain", "http://a/d", "--problem", "http://a/p"]

end PlanCourier

import PlanCourier.Http.Service
import PlanCourier.Solve.Errand

/-!
# One solve alone

A solve from its submission to its end, as actions on a service: the request is submitted, the task
is checked after every delay, and the user is told how it goes. Nobody else polls the task, so no
handle has to be claimed, and nobody stops the loop.

Main statement: `poll_eq`, a loop is one check and, if that does not end it, the loop from the next
attempt on.
-/

namespace PlanCourier

/-- What a solve acts on. -/
structure Pursuit (m : Type → Type) where
  solver : Solver
  service : SolverService m
  /-- Waits this many milliseconds. -/
  wait : Nat → m Unit
  /-- Tells or shows the user something. -/
  tell : Notice → m Unit

namespace Pursuit

variable {m : Type → Type} [Monad m]

/-- Tells the user several things, one after another. -/
def tellAll (c : Pursuit m) : List Notice → m Unit
  | [] => return ()
  | n :: rest => do
    c.tell n
    c.tellAll rest

/-- Waits before a check. -/
def pause (c : Pursuit m) : m Unit := c.wait c.solver.policy.interval.toNat

def poll (c : Pursuit m) (a : Attempt) : m (Except SolveFault Outcome) := do
  c.pause
  let answer ← c.service.check a.handle c.solver.adaptor
  match h : c.solver.afterCheck a answer with
  | .ended result => return result
  | .wait b =>
    have : b.left < a.left := Solver.left_lt_of_afterCheck h
    c.tell (.stillSolving c.solver.policy)
    c.poll b
termination_by a.left

theorem poll_eq (c : Pursuit m) (a : Attempt) :
    c.poll a = (do
      c.pause
      match c.solver.afterCheck a (← c.service.check a.handle c.solver.adaptor) with
      | .ended result => return result
      | .wait b =>
        c.tell (.stillSolving c.solver.policy)
        c.poll b) := by
  rw [poll]
  congr 1
  funext _
  congr 1
  funext answer
  split <;> simp_all

/-- Submits a request and polls its task. -/
def fetch (c : Pursuit m) (package : String) (request : Request) :
    m (Except SolveFault Outcome) := do
  match c.solver.afterSubmit package (← c.service.submit package request) with
  | .error fault => return .error fault
  | .ok handle =>
    c.tell .initiated
    c.poll (c.solver.policy.start handle)

/-- A whole solve, at the end of which the user is told what came of it. -/
def solve (c : Pursuit m) (package : String) (request : Request) :
    m (Except SolveFault Outcome) := do
  let result ← c.fetch package request
  c.tellAll (Notice.closing result)
  return result

end Pursuit

end PlanCourier

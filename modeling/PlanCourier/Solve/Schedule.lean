import PlanCourier.Solve.Turn

/-!
# Errands in time

Several errands on one desk, on a clock of whole milliseconds on which only waiting takes time. The
service answers a call after a while of its own; what it answers may depend on all calls before. The
run that has something to do first takes its next turn, of several such runs the first one.

The desk keeps a book of all that the runs do. `Desk.account` is what one of them did, and
`Desk.log` what can be seen from outside.

Main statements:

- `account_after` and `account_after_ne`: a turn is entered in the account of its own run alone;
- `eq_of_pick`: the run that is picked is one of the runs, and the others stay in their order;
- `play_none` and `play_some`: the course goes on move by move until no run is due;
- `rank_move`: every move brings the runs nearer to their end, so that all of them end.
-/

namespace PlanCourier

/-- What a service answers to the first of the calls, which is the latest one. -/
abbrev TimedService := List Call → Reply

/-- Something that can be seen from outside. -/
inductive Happening where
  | called (call : Call)
  /-- A notice of the run at this position. -/
  | told (run : Nat) (notice : Notice)
  | looked (handle : String) (flag : Bool)
  deriving DecidableEq, Repr

/-- What can be seen of a deed of the run at this position. -/
def Deed.happening? (run : Nat) : Deed → Option Happening
  | .called call _ => some (.called call)
  | .told notice => some (.told run notice)
  | .looked handle flag => some (.looked handle flag)
  | .ended _ => none

/-- A deed in the book of a desk. -/
structure Desk.Entry where
  time : Nat
  run : Nat
  deed : Deed

/-- The clock, the claimed handles, the calls so far with the latest first, and the book with the
latest entry last. -/
structure Desk where
  now : Nat
  claims : Claims
  calls : List Call
  book : List Desk.Entry

namespace Desk

/-- The desk before anything happened. -/
def quiet : Desk := ⟨0, [], [], []⟩

/-- What could be seen, and when. -/
def log (d : Desk) : List (Nat × Happening) :=
  d.book.filterMap fun e => (e.deed.happening? e.run).map (e.time, ·)

/-- What the run at this position did, and when. -/
def account (d : Desk) (run : Nat) : List (Nat × Deed) :=
  (d.book.filter (·.run == run)).map fun e => (e.time, e.deed)

/-- What a run finds at the desk. -/
def setting (d : Desk) (service : TimedService) : Setting :=
  ⟨d.claims, fun call => service (call :: d.calls)⟩

def after (d : Desk) (run : Nat) (t : Turn) : Desk :=
  { d with
    claims := t.claims
    calls := (t.deeds.filterMap Deed.call?).reverse ++ d.calls
    book := d.book ++ t.deeds.map (⟨d.now, run, ·⟩) }

@[simp] theorem now_after (d : Desk) (run : Nat) (t : Turn) : (d.after run t).now = d.now := rfl

@[simp] theorem claims_after (d : Desk) (run : Nat) (t : Turn) :
    (d.after run t).claims = t.claims := rfl

theorem account_after (d : Desk) (run : Nat) (t : Turn) :
    (d.after run t).account run = d.account run ++ t.deeds.map (d.now, ·) := by
  have hown : t.deeds.filter (fun _ => true) = t.deeds := List.filter_eq_self.2 fun _ _ => rfl
  simp [account, after, List.filter_map, Function.comp_def, hown]

theorem account_after_ne (d : Desk) {run other : Nat} (h : other ≠ run) (t : Turn) :
    (d.after other t).account run = d.account run := by
  simp [account, after, List.filter_map, Function.comp_def, h]

end Desk

/-- The next turn of the run at this position. -/
def Run.act (s : TimedSolver) (service : TimedService) (position : Nat) (job : Appointment)
    (d : Desk) (stage : Stage) : Desk × Stage :=
  let t := turn s job d.now (d.setting service) stage
  (d.after position t, t.stage)

namespace Schedule

/-- A run among others: when it moves, the runs before it, itself, and the runs after it. -/
structure Pick where
  time : Nat
  earlier : List Run
  run : Run
  later : List Run

/-- The run that moves first; of several the first one. -/
def pick : List Run → Option Pick
  | [] => none
  | r :: rest =>
    let further := (pick rest).map fun p => { p with earlier := r :: p.earlier }
    match r.due with
    | none => further
    | some t =>
      match further with
      | none => some ⟨t, [], r, rest⟩
      | some p => if t ≤ p.time then some ⟨t, [], r, rest⟩ else some p

theorem eq_of_pick {runs : List Run} {p : Pick} (h : pick runs = some p) :
    runs = p.earlier ++ p.run :: p.later ∧ p.run.due = some p.time := by
  induction runs generalizing p with
  | nil => simp [pick] at h
  | cons r rest ih =>
    have hfurther : ∀ q, (pick rest).map (fun p => { p with earlier := r :: p.earlier }) = some q →
        r :: rest = q.earlier ++ q.run :: q.later ∧ q.run.due = some q.time := by
      intro q hq
      obtain ⟨p', hp', rfl⟩ := Option.map_eq_some_iff.1 hq
      obtain ⟨h1, h2⟩ := ih hp'
      exact ⟨by simpa using h1, h2⟩
    unfold pick at h
    dsimp only at h
    split at h
    next => exact hfurther p h
    next t ht =>
      split at h
      next => obtain rfl := Option.some.inj h; exact ⟨rfl, ht⟩
      next q hq =>
        split at h
        next => obtain rfl := Option.some.inj h; exact ⟨rfl, ht⟩
        next => obtain rfl := Option.some.inj h; exact hfurther q hq

/-- How many moves are left at most. -/
def rank (s : TimedSolver) : List Run → Nat
  | [] => 0
  | r :: rest => r.stage.rank s + rank s rest

theorem rank_append (s : TimedSolver) (a b : List Run) : rank s (a ++ b) = rank s a + rank s b := by
  induction a with
  | nil => simp [rank]
  | cons r a ih => rw [List.cons_append, rank, ih, rank, Nat.add_assoc]

/-- The turn of the run that was picked, at the moment of the pick or now, whichever is later. -/
def Pick.act (s : TimedSolver) (service : TimedService) (d : Desk) (p : Pick) : Desk × Stage :=
  Run.act s service p.earlier.length p.run.job { d with now := max d.now p.time } p.run.stage

/-- The desk and the runs after the run that was picked has moved. -/
def move (s : TimedSolver) (service : TimedService) (d : Desk) (p : Pick) : Desk × List Run :=
  ((p.act s service d).1, p.earlier ++ { p.run with stage := (p.act s service d).2 } :: p.later)

theorem rank_move (s : TimedSolver) (service : TimedService) (d : Desk) {runs : List Run}
    {p : Pick} (h : pick runs = some p) : rank s (move s service d p).2 < rank s runs := by
  obtain ⟨rfl, hd⟩ := eq_of_pick h
  have := Run.rank_turn s (max d.now p.time) (d.setting service) p.run hd
  simp only [move, rank_append, rank]
  exact Nat.add_lt_add_left (Nat.add_lt_add_right this _) _

/-- All moves until every run is over. -/
def play (s : TimedSolver) (service : TimedService) (d : Desk) (runs : List Run) :
    Desk × List Run :=
  match h : pick runs with
  | none => (d, runs)
  | some p =>
    have : rank s (move s service d p).2 < rank s runs := rank_move s service d h
    play s service (move s service d p).1 (move s service d p).2
termination_by rank s runs

theorem play_none {s : TimedSolver} {service : TimedService} {d : Desk} {runs : List Run}
    (h : pick runs = none) : play s service d runs = (d, runs) := by
  rw [play]
  split
  next => rfl
  next hp => simp [h] at hp

theorem play_some {s : TimedSolver} {service : TimedService} {d : Desk} {runs : List Run}
    {p : Pick} (h : pick runs = some p) :
    play s service d runs = play s service (move s service d p).1 (move s service d p).2 := by
  rw [play]
  split
  next hp => simp [h] at hp
  next hp =>
    obtain rfl := Option.some.inj (h.symm.trans hp)
    rfl

/-- The course of errands from their appointments on. -/
def run (s : TimedSolver) (service : TimedService) (jobs : List Appointment) :
    Desk × List Run :=
  play s service .quiet (jobs.map (⟨·, .before⟩))

end Schedule

end PlanCourier

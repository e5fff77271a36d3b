import PlanCourier.Package.Catalog
import PlanCourier.Proofs.Package.Parameters

/-!
# What a catalog holds

A catalog is told to do one thing after another, and its service answers with listings and failures
in any order. What was done so far decides what the catalog holds: the listing of the latest fetch
that succeeded, unless it was told to forget since. `Latest` says so of a history of steps, without
a look at the cache; what a step does to the cache is `possible_step`, and `Agrees.step` carries the
one to the other along a run.

Main statements:

- `possible_step`: the four things that a step can be;
- `Agrees.step`: a step keeps the cache and the history in agreement;
- `lawful_of_history`: what every step of every run asks for, answers and leaves.
-/

namespace PlanCourier.Catalog

/-- What a catalog is told to do. -/
inductive Operation where
  | refresh
  | invalidate
  | index
  | list
  | package (key : String)
  | parameters (key : String)
  | resolve (key : String) (user : Values)
  deriving DecidableEq, Repr

inductive Reply where
  | listing (l : Listing)
  | packages (ps : List Package)
  | package (p : Package)
  | parameters (ps : List Parameter)
  | values (vs : Values)
  | forgotten
  deriving DecidableEq, Repr

namespace Operation

/-- Whether the operation reads the listing that is held. -/
def reads : Operation → Bool
  | .refresh | .invalidate => false
  | _ => true

/-- Whether the operation asks the service, when this is held. -/
def asks (op : Operation) (held : Option Listing) : Bool :=
  op == .refresh || op.reads && held.isNone

/-- What the operation answers from a listing. -/
def answer (op : Operation) (l : Listing) : Except SolveFault Reply :=
  match op with
  | .refresh | .index => .ok (.listing l)
  | .list => .ok (.packages l.sorted)
  | .package key => (find key l).map .package
  | .parameters key => (find key l).map fun p => .parameters p.solveParameters
  | .resolve key user =>
    (find key l).bind fun p => (Parameter.resolve p.solveParameters user).map .values
  | .invalidate => .ok .forgotten

theorem answer_ne_listing (op : Operation) (l : Listing) (e : ServiceFault) :
    op.answer l ≠ .error (.listing e) := by
  have hfind (key : String) : find key l ≠ .error (.listing e) := by
    unfold find
    split <;> simp
  intro h
  cases op with
  | package key =>
    cases hfound : find key l <;> simp_all [answer, Except.map]
  | parameters key =>
    cases hfound : find key l <;> simp_all [answer, Except.map]
  | resolve key user =>
    cases hfound : find key l with
    | error fault => simp_all [answer, Except.bind]
    | ok p =>
      cases hvalues : Parameter.resolve p.solveParameters user with
      | ok values => simp [answer, hfound, hvalues, Except.bind, Except.map] at h
      | error fault =>
        obtain ⟨-, name, v, expected, rfl⟩ := Parameter.resolve_eq_error hvalues
        simp [answer, hfound, hvalues, Except.bind, Except.map] at h
  | _ => cases h

theorem asks_iff {op : Operation} {held : Option Listing} :
    op.asks held = true ↔ op = .refresh ∨ op.reads = true ∧ held = none := by
  simp [asks]

theorem ne_refresh_of_reads {op : Operation} (h : op.reads = true) : op ≠ .refresh := by
  rintro rfl
  cases h

theorem ne_invalidate_of_reads {op : Operation} (h : op.reads = true) : op ≠ .invalidate := by
  rintro rfl
  cases h

theorem ne_invalidate_of_asks {op : Operation} {held : Option Listing} (h : op.asks held = true) :
    op ≠ .invalidate := by
  rintro rfl
  cases h

end Operation

section

variable {m : Type → Type} [Monad m]

/-- An answer of its kind, with the catalog that is left. -/
def replying (reply : α → Reply) (x : m (Except SolveFault α × Catalog)) :
    m (Except SolveFault Reply × Catalog) := do
  let (r, c) ← x
  return (r.map reply, c)

def perform (fetch : Fetch m) (c : Catalog) : Operation → m (Except SolveFault Reply × Catalog)
  | .refresh => replying .listing (c.refresh fetch)
  | .invalidate => return (.ok .forgotten, c.invalidate)
  | .index => replying .listing (c.index fetch)
  | .list => replying .packages (c.list fetch)
  | .package key => replying .package (c.package fetch key)
  | .parameters key => replying .parameters (c.parameters fetch key)
  | .resolve key user => replying .values (c.resolve fetch key user)

end

/-- What a service answers to the first fetch, the second one, and so on. -/
abbrev Answers := Nat → Except ServiceFault Listing

/-- A fetch from a service that gave so many answers before. -/
def Answers.fetch (answers : Answers) : Fetch (StateM Nat) := fun n => (answers n, n + 1)

/-- One thing that a catalog did. -/
structure Step where
  operation : Operation
  /-- What it held before. -/
  before : Option Listing
  /-- What the service answered meanwhile. -/
  fetched : List (Except ServiceFault Listing)
  reply : Except SolveFault Reply
  /-- What it held afterwards. -/
  after : Option Listing

/-- What a catalog does next, with a service that gave `n` answers before; and how many answers the
service gave then. -/
def step (answers : Answers) (c : Catalog) (n : Nat) (op : Operation) : Step × Nat :=
  let ((reply, left), calls) := (c.perform answers.fetch op).run n
  (⟨op, c.cache, (List.range' n (calls - n)).map answers, reply, left.cache⟩, calls)

/-- All that a catalog does, one thing after another. -/
def history (answers : Answers) : Catalog → Nat → List Operation → List Step
  | _, _, [] => []
  | c, n, op :: rest =>
    let (s, n) := step answers c n op
    s :: history answers ⟨s.after⟩ n rest

theorem history_cons (answers : Answers) (c : Catalog) (n : Nat) (op : Operation)
    (rest : List Operation) : history answers c n (op :: rest) = (step answers c n op).1 ::
      history answers ⟨(step answers c n op).1.after⟩ (step answers c n op).2 rest := rfl

/-! ## One step -/

theorem run_refresh (answers : Answers) (c : Catalog) (n : Nat) :
    (c.refresh answers.fetch).run n =
      match answers n with
      | .ok l => ((.ok l, ⟨some l⟩), n + 1)
      | .error e => ((.error (.listing e), c), n + 1) := by
  have hfetch : answers.fetch.run n = (answers n, n + 1) := rfl
  rw [refresh, StateT.run_bind, hfetch]
  cases answers n <;> rfl

theorem run_reading (answers : Answers) (c : Catalog) (n : Nat)
    (f : Listing → Except SolveFault α) :
    (c.reading answers.fetch f).run n =
      match c.cache with
      | some l => ((f l, c), n)
      | none =>
        match answers n with
        | .ok l => ((f l, ⟨some l⟩), n + 1)
        | .error e => ((.error (.listing e), c), n + 1) := by
  rw [reading, StateT.run_bind, index]
  cases c.cache with
  | some l => rfl
  | none =>
    rw [run_refresh]
    cases answers n <;> rfl

theorem run_replying (reply : α → Reply) (x : StateM Nat (Except SolveFault α × Catalog))
    (n : Nat) :
    (replying reply x).run n = (((x.run n).1.1.map reply, (x.run n).1.2), (x.run n).2) := rfl

/-- What a step can be, with a service that gave `n` answers before. -/
inductive Possible (answers : Answers) (n : Nat) : Step → Nat → Prop
  /-- What is held is forgotten. -/
  | forgets (held : Option Listing) :
      Possible answers n ⟨.invalidate, held, [], .ok .forgotten, none⟩ n
  /-- The service is not asked, and the answer is that of the listing that is held. -/
  | finds {op : Operation} (hreads : op.reads = true) (l : Listing) :
      Possible answers n ⟨op, some l, [], op.answer l, some l⟩ n
  /-- The service gives a listing, which is held from then on. -/
  | fetches {op : Operation} {held : Option Listing} {l : Listing} (hasks : op.asks held = true)
      (hl : answers n = .ok l) : Possible answers n ⟨op, held, [.ok l], op.answer l, some l⟩ (n + 1)
  /-- The service fails, which changes nothing. -/
  | fails {op : Operation} {held : Option Listing} {e : ServiceFault} (hasks : op.asks held = true)
      (he : answers n = .error e) :
      Possible answers n ⟨op, held, [.error e], .error (.listing e), held⟩ (n + 1)

/-- What is made of a listing is made of it at once, and then reported. -/
theorem run_replying_reading (answers : Answers) (c : Catalog) (n : Nat) (reply : α → Reply)
    (f : Listing → Except SolveFault α) :
    (replying reply (c.reading answers.fetch f)).run n =
      (c.reading answers.fetch fun l => (f l).map reply).run n := by
  simp only [run_replying, run_reading]
  cases c.cache with
  | some l => rfl
  | none => cases answers n <;> rfl

/-- A reading operation answers from the listing that is held, or fetched for it. -/
theorem run_perform {answers : Answers} {c : Catalog} {n : Nat} {op : Operation}
    (h : op.reads = true) : (c.perform answers.fetch op).run n =
      (c.reading answers.fetch op.answer).run n := by
  cases op with
  | refresh => cases h
  | invalidate => cases h
  | index =>
    rw [run_reading, perform, run_replying, index]
    cases c.cache with
    | some l => rfl
    | none =>
      rw [run_refresh]
      cases answers n <;> rfl
  | list => exact run_replying_reading ..
  | package key => exact run_replying_reading ..
  | parameters key =>
    rw [perform, parameters, run_replying_reading]
    congr 2
    funext l
    cases hfound : find key l <;> simp [Operation.answer, hfound, Except.map]
  | resolve key user =>
    rw [perform, resolve, run_replying_reading]
    congr 2
    funext l
    cases hfound : find key l <;> simp [Operation.answer, hfound, Except.map, Except.bind]

theorem step_of_run {answers : Answers} {c left : Catalog} {n calls : Nat} {op : Operation}
    {reply : Except SolveFault Reply}
    (h : (c.perform answers.fetch op).run n = ((reply, left), calls)) :
    step answers c n op =
      (⟨op, c.cache, (List.range' n (calls - n)).map answers, reply, left.cache⟩, calls) := by
  simp [step, h]

theorem step_of_idle {answers : Answers} {c left : Catalog} {n : Nat} {op : Operation}
    {reply : Except SolveFault Reply}
    (h : (c.perform answers.fetch op).run n = ((reply, left), n)) :
    step answers c n op = (⟨op, c.cache, [], reply, left.cache⟩, n) := by
  simp [step_of_run h]

theorem step_of_fetch {answers : Answers} {c left : Catalog} {n : Nat} {op : Operation}
    {reply : Except SolveFault Reply}
    (h : (c.perform answers.fetch op).run n = ((reply, left), n + 1)) :
    step answers c n op = (⟨op, c.cache, [answers n], reply, left.cache⟩, n + 1) := by
  simp [step_of_run h]

theorem possible_step (answers : Answers) (c : Catalog) (n : Nat) (op : Operation) :
    Possible answers n (step answers c n op).1 (step answers c n op).2 := by
  cases hreads : op.reads with
  | true =>
    have hrun := run_reading answers c n op.answer
    rw [← run_perform hreads] at hrun
    cases hheld : c.cache with
    | some l =>
      rw [hheld] at hrun
      rw [step_of_idle hrun, hheld]
      exact .finds hreads l
    | none =>
      have hasks : op.asks none = true := by simp [Operation.asks, hreads]
      rw [hheld] at hrun
      cases hanswer : answers n with
      | ok l =>
        rw [hanswer] at hrun
        rw [step_of_fetch hrun, hheld, hanswer]
        exact .fetches hasks hanswer
      | error e =>
        rw [hanswer] at hrun
        rw [step_of_fetch hrun, hheld, hanswer]
        exact .fails hasks hanswer
  | false =>
    cases op with
    | invalidate =>
      rw [step_of_idle rfl]
      exact .forgets c.cache
    | refresh =>
      have hrun : (c.perform answers.fetch .refresh).run n = _ := run_replying ..
      rw [run_refresh] at hrun
      cases hanswer : answers n with
      | ok l =>
        rw [hanswer] at hrun
        rw [step_of_fetch hrun, hanswer]
        exact .fetches rfl hanswer
      | error e =>
        rw [hanswer] at hrun
        rw [step_of_fetch hrun, hanswer]
        exact .fails rfl hanswer
    | _ => cases hreads

/-! ## All steps -/

/-- A listing was fetched, and it is the latest one: after it none was fetched, and nothing was
forgotten. -/
def Latest (past : List Step) (l : Listing) : Prop :=
  ∃ older s newer, past = older ++ s :: newer ∧ .ok l ∈ s.fetched ∧
    ∀ t ∈ newer, t.operation ≠ .invalidate ∧ ∀ l', .ok l' ∉ t.fetched

/-- The latest listing is the one that the last step fetched, or else the one from before, if the
last step neither fetched another one nor forgot. -/
theorem latest_concat {past : List Step} {s : Step} {l : Listing} :
    Latest (past ++ [s]) l ↔ .ok l ∈ s.fetched ∨
      Latest past l ∧ s.operation ≠ .invalidate ∧ ∀ l', .ok l' ∉ s.fetched := by
  constructor
  · rintro ⟨older, t, newer, hpast, hl, hnewer⟩
    obtain rfl | ⟨newer, u, rfl⟩ := newer.eq_nil_or_concat
    · obtain ⟨rfl, rfl⟩ : past = older ∧ s = t := by simpa [List.append_singleton_inj] using hpast
      exact .inl hl
    · obtain ⟨rfl, rfl⟩ : past = older ++ t :: newer ∧ s = u := by
        rw [List.concat_eq_append, ← List.cons_append, ← List.append_assoc] at hpast
        obtain ⟨hbefore, hlast⟩ := List.append_inj' hpast rfl
        exact ⟨hbefore, List.singleton_inj.1 hlast⟩
      refine .inr ⟨⟨older, t, newer, rfl, hl, fun v hv => hnewer v (by simp [hv])⟩, ?_⟩
      exact hnewer s (by simp)
  · rintro (hl | ⟨⟨older, t, newer, rfl, hl, hnewer⟩, hs⟩)
    · exact ⟨past, s, [], rfl, hl, by simp⟩
    · refine ⟨older, t, newer ++ [s], by simp, hl, fun v hv => ?_⟩
      obtain hv | hv := List.mem_append.1 hv
      · exact hnewer v hv
      · obtain rfl := List.mem_singleton.1 hv
        exact hs

/-- How often the service was asked. -/
def calls (past : List Step) : Nat := (past.flatMap (·.fetched)).length

@[simp] theorem calls_concat (past : List Step) (s : Step) :
    calls (past ++ [s]) = calls past + s.fetched.length := by
  simp [calls]

/-- A catalog holds what its history says, and the service was asked as often as that says. -/
structure Agrees (past : List Step) (held : Option Listing) (n : Nat) : Prop where
  holds : ∀ l, held = some l ↔ Latest past l
  asked : n = calls past

theorem agrees_empty : Agrees [] none 0 where
  holds l := by simp [Latest]
  asked := rfl

/-- A step keeps the catalog and its history in agreement. -/
theorem Agrees.step {answers : Answers} {past : List Step} {s : Step} {n n' : Nat}
    (h : Agrees past s.before n) (hs : Possible answers n s n') :
    Agrees (past ++ [s]) s.after n' := by
  constructor
  · intro l
    rw [latest_concat]
    cases hs with
    | forgets held => simp
    | finds hreads l' => simp [h.holds l, Operation.ne_invalidate_of_reads hreads]
    | fetches hasks hl => simp [eq_comm]
    | fails hasks he => simp [h.holds l, Operation.ne_invalidate_of_asks hasks]
  · rw [calls_concat, ← h.asked]
    cases hs <;> rfl

/-- Every step of a run is taken with the catalog that the steps before it left. -/
theorem agrees_of_history {answers : Answers} {ops : List Operation} {c : Catalog} {n : Nat}
    {past earlier later : List Step} {s : Step} (h : Agrees past c.cache n)
    (hrun : history answers c n ops = earlier ++ s :: later) :
    Agrees (past ++ earlier) s.before (calls (past ++ earlier)) ∧
      ∃ n', Possible answers (calls (past ++ earlier)) s n' := by
  -- by induction on what is still to be done; what was done goes over into the past
  induction ops generalizing c n past earlier with
  | nil => simp [history] at hrun
  | cons op rest ih =>
    have hstep := possible_step answers c n op
    have hbefore : (step answers c n op).1.before = c.cache := rfl
    rw [← hbefore] at h
    rw [history_cons] at hrun
    generalize step answers c n op = taken at h hstep hrun
    cases earlier with
    | nil =>
      obtain ⟨rfl, -⟩ := List.cons.inj hrun
      obtain rfl := h.asked
      simpa using ⟨h, _, hstep⟩
    | cons first earlier =>
      obtain ⟨rfl, hrest⟩ := List.cons.inj hrun
      simpa using ih (h.step hstep) hrest

/-- What a step asks for, answers and leaves, after the steps before it. -/
structure Lawful (answers : Answers) (past : List Step) (s : Step) : Prop where
  /-- A refresh asks the service once, and so does a reading operation that finds nothing; nothing
  else does. -/
  asks : s.fetched = if s.operation = .refresh ∨ s.operation.reads = true ∧ s.before = none then
    [answers (calls past)] else []
  /-- What is held is the latest listing, if there is one. -/
  finds : ∀ l, s.before = some l ↔ Latest past l
  leaves : ∀ l, s.after = some l ↔ Latest (past ++ [s]) l
  /-- Unless the service fails, the answer is made of the latest listing. -/
  replies : s.operation ≠ .invalidate → (∀ e, s.reply ≠ .error (.listing e)) →
    ∃ l, Latest (past ++ [s]) l ∧ s.reply = s.operation.answer l
  /-- A failure of the service is reported, -/
  reports : ∀ e, s.reply = .error (.listing e) ↔ .error e ∈ s.fetched
  /-- and changes nothing. -/
  keeps : ∀ e, .error e ∈ s.fetched → s.after = s.before
  /-- A listing by which a request is refused stays as well. It was held before, unless nothing was
  and it was fetched for this request. -/
  refuses : ∀ fault, s.reply = .error fault → (∀ e, fault ≠ .listing e) →
    ∃ l, s.after = some l ∧ s.operation.answer l = .error fault ∧
      (s.before = some l ∨ s.before = none ∧ s.fetched = [.ok l])

/-- What every step of every run asks for, answers and leaves, whatever the service answers. -/
theorem lawful_of_history (answers : Answers) (ops : List Operation) {earlier later : List Step}
    {s : Step} (h : history answers empty 0 ops = earlier ++ s :: later) :
    Lawful answers earlier s := by
  obtain ⟨hagrees, n', hpossible⟩ := agrees_of_history agrees_empty h
  rw [List.nil_append] at hagrees hpossible
  have hafter := hagrees.step hpossible
  refine ⟨?asks, hagrees.holds, hafter.holds, ?replies, ?reports, ?keeps, ?refuses⟩
  case asks =>
    cases hpossible with
    | forgets held => simp [Operation.reads]
    | finds hreads l => simp [Operation.ne_refresh_of_reads hreads]
    | fetches hasks hl => rw [if_pos (Operation.asks_iff.1 hasks), hl]
    | fails hasks he => rw [if_pos (Operation.asks_iff.1 hasks), he]
  case replies =>
    intro hkept hreply
    cases hpossible with
    | forgets held => exact absurd rfl hkept
    | finds hreads l => exact ⟨l, (hafter.holds l).1 rfl, rfl⟩
    | fetches hasks hl => exact ⟨_, (hafter.holds _).1 rfl, rfl⟩
    | fails hasks he => exact absurd rfl (hreply _)
  case reports =>
    intro e
    cases hpossible with
    | forgets held => simp
    | finds hreads l => simp [Operation.answer_ne_listing]
    | fetches hasks hl => simp [Operation.answer_ne_listing]
    | fails hasks he => simp [eq_comm]
  case keeps =>
    intro e he
    cases hpossible with
    | fails hasks he => rfl
    | _ => simp at he
  case refuses =>
    intro fault hreply hother
    cases hpossible with
    | forgets held => cases hreply
    | finds hreads l => exact ⟨l, rfl, hreply, .inl rfl⟩
    | fetches hasks hl =>
      refine ⟨_, rfl, hreply, .inr ⟨?_, rfl⟩⟩
      obtain rfl | ⟨-, hnone⟩ := Operation.asks_iff.1 hasks
      · cases hreply
      · exact hnone
    | fails hasks he => exact absurd (Except.error.inj hreply).symm (hother _)

namespace Sample

def listing : Listing := [("lama", ⟨"lama", none, []⟩)]

/-- A service that gives the listing, then fails once, and then offers nothing any more. -/
def answers : Answers
  | 0 => .ok listing
  | 1 => .error (.transport "http://localhost:5001/package" "connection refused")
  | _ => .ok []

/-- What a catalog does with that service. -/
def steps : List Step :=
  history answers empty 0 [.list, .refresh, .package "bfws", .invalidate, .index]

end Sample

/-- A refresh that fails leaves the listing, and a package that is not in it is refused without
another fetch. -/
theorem refused_after_failed_refresh :
    ∃ s, Sample.steps = Sample.steps.take 2 ++ s :: Sample.steps.drop 3 ∧
      s.reply = .error (.unknownPackage "bfws") ∧ s.fetched = [] ∧
      s.after = some Sample.listing ∧ Latest (Sample.steps.take 2) Sample.listing := by
  let s : Step := ⟨.package "bfws", some Sample.listing, [], .error (.unknownPackage "bfws"),
    some Sample.listing⟩
  have hs : Sample.steps = Sample.steps.take 2 ++ s :: Sample.steps.drop 3 := rfl
  have hlawful : Lawful Sample.answers (Sample.steps.take 2) s :=
    lawful_of_history Sample.answers _ hs
  exact ⟨s, hs, rfl, hlawful.asks, rfl, (hlawful.finds _).1 rfl⟩

end PlanCourier.Catalog

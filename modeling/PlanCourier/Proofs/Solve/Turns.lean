import Mathlib.Logic.Relation
import PlanCourier.Solve.Schedule

/-!
# Whose turn it is

In a schedule the run that is due first takes its turn, of several such runs the first one. Followed
with one run in mind, the others move for a while, and then this run takes its turn at the moment
that it waited for. What the others do in between shows to it only in the setting that it finds.

Main statements:

- `pick_eq_some_iff`: the run that is picked is due no later than any other, and before those that
  stand before it;
- `exists_turns`: the schedule comes to the next turn of a run, whatever the others do, and so does
  the schedule in which a run with another appointment stands in its place;
- `yields_closed`: a run that is over does nothing more.
-/

namespace PlanCourier

namespace Schedule

variable {s : TimedSolver} {service : TimedService}

/-- The run of the pick is due then, those before it later, and those after it no earlier. -/
structure Pick.IsFirst (p : Pick) : Prop where
  due : p.run.due = some p.time
  earlier : ∀ r ∈ p.earlier, ∀ u, r.due = some u → p.time < u
  later : ∀ r ∈ p.later, ∀ u, r.due = some u → p.time ≤ u

theorem due_of_pick_none {runs : List Run} (h : pick runs = none) : ∀ r ∈ runs, r.due = none := by
  induction runs with
  | nil => simp
  | cons r rest ih =>
    unfold pick at h
    dsimp only at h
    split at h
    next hr =>
      have hrest : pick rest = none := by simpa using h
      exact List.forall_mem_cons.2 ⟨hr, ih hrest⟩
    next =>
      split at h
      next => simp at h
      next => split at h <;> simp at h

theorem le_of_isFirst {p : Pick} (h : p.IsFirst) {r : Run} {u : Nat}
    (hr : r ∈ p.earlier ++ p.run :: p.later) (hu : r.due = some u) : p.time ≤ u := by
  rcases List.mem_append.1 hr with he | hl
  · exact Nat.le_of_lt (h.earlier r he u hu)
  · rcases List.mem_cons.1 hl with rfl | hl
    · exact Nat.le_of_eq (Option.some.inj (h.due.symm.trans hu))
    · exact h.later r hl u hu

theorem isFirst_of_pick {runs : List Run} {p : Pick} (h : pick runs = some p) : p.IsFirst := by
  induction runs generalizing p with
  | nil => simp [pick] at h
  | cons r rest ih =>
    have hlater : ∀ {t : Nat}, (∀ q, pick rest = some q → t ≤ q.time) →
        ∀ r' ∈ rest, ∀ u, r'.due = some u → t ≤ u := by
      intro t ht r' hr' u hu
      cases hq : pick rest with
      | none => simp [due_of_pick_none hq r' hr'] at hu
      | some q =>
        have hmem : r' ∈ q.earlier ++ q.run :: q.later := (eq_of_pick hq).1 ▸ hr'
        exact Nat.le_trans (ht q hq) (le_of_isFirst (ih hq) hmem hu)
    unfold pick at h
    dsimp only at h
    split at h
    next hr =>
      obtain ⟨q, hq, rfl⟩ := Option.map_eq_some_iff.1 h
      refine ⟨(ih hq).due, List.forall_mem_cons.2 ⟨?_, (ih hq).earlier⟩, (ih hq).later⟩
      intro u hu
      simp [hr] at hu
    next t ht =>
      split at h
      next hnone =>
        obtain rfl := Option.some.inj h
        have hrest : pick rest = none := by simpa using hnone
        exact ⟨ht, by simp, hlater (by simp [hrest])⟩
      next q' hsome =>
        obtain ⟨q, hq, rfl⟩ := Option.map_eq_some_iff.1 hsome
        dsimp only at h
        split at h
        next hle =>
          obtain rfl := Option.some.inj h
          refine ⟨ht, by simp, hlater fun q₂ hq₂ => ?_⟩
          obtain rfl := Option.some.inj (hq.symm.trans hq₂)
          exact hle
        next hlt =>
          obtain rfl := Option.some.inj h
          refine ⟨(ih hq).due, List.forall_mem_cons.2 ⟨?_, (ih hq).earlier⟩, (ih hq).later⟩
          intro u hu
          obtain rfl := Option.some.inj (ht.symm.trans hu)
          exact Nat.lt_of_not_le hlt

theorem pick_of_isFirst {p : Pick} (h : p.IsFirst) :
    pick (p.earlier ++ p.run :: p.later) = some p := by
  obtain ⟨time, earlier, run, later⟩ := p
  obtain ⟨hdue, hearlier, hlater⟩ := h
  dsimp only at *
  induction earlier with
  | nil =>
    rw [List.nil_append, pick]
    simp only [hdue]
    cases hq : pick later with
    | none => rfl
    | some q =>
      have hmem : q.run ∈ later := by
        rw [(eq_of_pick hq).1]
        simp
      simp [hlater q.run hmem q.time (eq_of_pick hq).2]
  | cons r rest ih =>
    obtain ⟨hr, hrest⟩ := List.forall_mem_cons.1 hearlier
    rw [List.cons_append, pick]
    simp only [ih hrest, Option.map_some]
    split
    next => rfl
    next u hu => rw [if_neg (Nat.not_le.2 (hr u hu))]

theorem pick_eq_some_iff {runs : List Run} {p : Pick} :
    pick runs = some p ↔ runs = p.earlier ++ p.run :: p.later ∧ p.IsFirst := by
  constructor
  · intro h
    exact ⟨(eq_of_pick h).1, isFirst_of_pick h⟩
  · rintro ⟨rfl, h⟩
    exact pick_of_isFirst h

/-! ## To the next turn of a run -/

def Moves (s : TimedSolver) (service : TimedService) (x y : Desk × List Run) : Prop :=
  ∃ p, pick x.2 = some p ∧ y = move s service x.1 p

/-- The states that a schedule passes through from this one on. -/
def Visits (s : TimedSolver) (service : TimedService) : Desk × List Run → Desk × List Run → Prop :=
  Relation.ReflTransGen (Moves s service)

theorem length_of_visits {x y : Desk × List Run} (h : Visits s service x y) :
    y.2.length = x.2.length := by
  induction h with
  | refl => rfl
  | @tail y z _ hm ih =>
    obtain ⟨p, hp, rfl⟩ := hm
    rw [← ih, (eq_of_pick hp).1]
    simp [move]

theorem places {earlier later : List Run} {r : Run} {p : Pick}
    (h : earlier ++ r :: later = p.earlier ++ p.run :: p.later) :
    (p.earlier = earlier ∧ p.run = r ∧ p.later = later) ∨
    (∃ between, earlier = p.earlier ++ p.run :: between ∧ p.later = between ++ r :: later) ∨
    (∃ between, p.earlier = earlier ++ r :: between ∧ later = between ++ p.run :: p.later) := by
  rcases List.append_eq_append_iff.1 h with ⟨a, ha, hr⟩ | ⟨a, ha, hr⟩
  · cases a with
    | nil =>
      obtain ⟨h1, h2⟩ := List.cons.inj hr
      exact .inl ⟨by simpa using ha, h1.symm, h2.symm⟩
    | cons x between =>
      obtain ⟨rfl, h2⟩ := List.cons.inj hr
      exact .inr (.inr ⟨between, ha, h2⟩)
  · cases a with
    | nil =>
      obtain ⟨h1, h2⟩ := List.cons.inj hr
      exact .inl ⟨by simpa using ha.symm, h1, h2⟩
    | cons x between =>
      obtain ⟨rfl, h2⟩ := List.cons.inj hr
      exact .inr (.inl ⟨between, ha, h2⟩)

/-- Who is first depends on the times alone at which the runs are due. -/
theorem Pick.IsFirst.congr {p q : Pick} (h : p.IsFirst) (ht : q.time = p.time)
    (hr : q.run.due = p.run.due) (he : q.earlier.map Run.due = p.earlier.map Run.due)
    (hl : q.later.map Run.due = p.later.map Run.due) : q.IsFirst := by
  refine ⟨by rw [hr, ht, h.due], ?_, ?_⟩
  · intro r hmem u hu
    have hdue : some u ∈ p.earlier.map Run.due := he ▸ hu ▸ List.mem_map_of_mem hmem
    obtain ⟨r', hmem', hu'⟩ := List.mem_map.1 hdue
    exact ht ▸ h.earlier r' hmem' u hu'
  · intro r hmem u hu
    have hdue : some u ∈ p.later.map Run.due := hl ▸ hu ▸ List.mem_map_of_mem hmem
    obtain ⟨r', hmem', hu'⟩ := List.mem_map.1 hdue
    exact ht ▸ h.later r' hmem' u hu'

/-- Either it is the turn of this run, or another run moves. The other run makes the same move where
a run that is due at the same time stands in the place of this one. -/
theorem own_or_other (s : TimedSolver) (service : TimedService) {earlier later : List Run} {r : Run}
    {p : Pick} (h : pick (earlier ++ r :: later) = some p) (d : Desk) :
    p = ⟨p.time, earlier, r, later⟩ ∨
    p.earlier.length ≠ earlier.length ∧ ∃ earlier₁ later₁, earlier₁.length = earlier.length ∧
      ∀ r', r'.due = r.due → ∃ q, pick (earlier ++ r' :: later) = some q ∧
        move s service d q = ((move s service d p).1, earlier₁ ++ r' :: later₁) := by
  obtain ⟨hlist, hfirst⟩ := pick_eq_some_iff.1 h
  obtain ⟨time, e, x, l⟩ := p
  let moved : Run := { x with stage := (Pick.act s service d ⟨time, e, x, l⟩).2 }
  rcases places hlist with ⟨rfl, rfl, rfl⟩ | ⟨between, rfl, hl⟩ | ⟨between, he, rfl⟩
  · exact .inl rfl
  · -- the other run stands before this one
    dsimp only at hl ⊢
    subst hl
    refine .inr ⟨by simp, e ++ moved :: between, later, by simp, fun r' hr => ?_⟩
    have hq : Pick.IsFirst ⟨time, e, x, between ++ r' :: later⟩ :=
      hfirst.congr rfl rfl rfl (by simp [hr])
    refine ⟨⟨time, e, x, between ++ r' :: later⟩, ?_, ?_⟩
    · rw [List.append_assoc]
      exact pick_of_isFirst hq
    · rw [List.append_assoc]
      rfl
  · -- it stands after this one
    dsimp only at he ⊢
    subst he
    refine .inr ⟨by simp, earlier, between ++ moved :: l, rfl, fun r' hr => ?_⟩
    have hq : Pick.IsFirst ⟨time, earlier ++ r' :: between, x, l⟩ :=
      hfirst.congr rfl rfl (by simp [hr]) rfl
    refine ⟨⟨time, earlier ++ r' :: between, x, l⟩, ?_, ?_⟩
    · have hp := pick_of_isFirst hq
      rwa [List.append_assoc] at hp
    · simp [move, Pick.act, moved]

theorem account_of_other {earlier : List Run} {p : Pick} (h : p.earlier.length ≠ earlier.length)
    (d : Desk) :
    (move s service d p).1.account earlier.length = d.account earlier.length :=
  Desk.account_after_ne _ h _

/-- From one state to another one in which it is the turn of the run `r`. The run `r'` may stand in
its place: neither run has moved, and the others have made the same moves. -/
structure Approach (s : TimedSolver) (service : TimedService) (r r' : Run) (u last : Nat)
    (d : Desk) (earlier later : List Run) (d₁ : Desk) (earlier₁ later₁ : List Run) : Prop where
  first : Pick.IsFirst ⟨u, earlier₁, r, later₁⟩
  position : earlier₁.length = earlier.length
  visits : Visits s service (d, earlier ++ r :: later) (d₁, earlier₁ ++ r :: later₁)
  account : d₁.account earlier.length = d.account earlier.length
  last_le : last ≤ d₁.now
  now_le : d₁.now ≤ max last u
  play_eq : play s service d (earlier ++ r :: later) =
    play s service d₁ (earlier₁ ++ r :: later₁)
  play_eq' : play s service d (earlier ++ r' :: later) =
    play s service d₁ (earlier₁ ++ r' :: later₁)

theorem exists_approach (s : TimedSolver) (service : TimedService) {r r' : Run} {u last : Nat}
    (hu : r.due = some u) (hu' : r'.due = some u) (d : Desk) (earlier later : List Run)
    (hlast : last ≤ d.now) (hnow : d.now ≤ max last u) :
    ∃ d₁ earlier₁ later₁, Approach s service r r' u last d earlier later d₁ earlier₁ later₁ := by
  -- the moves of the others bring all runs nearer to their end
  generalize hn : rank s (earlier ++ r :: later) = n
  induction n using Nat.strongRecOn generalizing d earlier later with
  | ind n ih =>
    subst hn
    obtain ⟨p, hp⟩ : ∃ p, pick (earlier ++ r :: later) = some p := by
      cases hp : pick (earlier ++ r :: later) with
      | none => simp [due_of_pick_none hp r (by simp)] at hu
      | some p => exact ⟨p, rfl⟩
    obtain ⟨hlist, hfirst⟩ := pick_eq_some_iff.1 hp
    have htime : p.time ≤ u := le_of_isFirst hfirst (hlist ▸ by simp) hu
    rcases own_or_other s service hp d with he | ⟨hne, earlier₁, later₁, hlen, hmove⟩
    · rw [he] at hfirst
      obtain rfl : p.time = u := Option.some.inj (hfirst.due.symm.trans hu)
      exact ⟨d, earlier, later, hfirst, rfl, .refl, rfl, hlast, hnow, rfl, rfl⟩
    · obtain ⟨q, hq, hm⟩ := hmove r rfl
      obtain rfl : q = p := Option.some.inj (hq.symm.trans hp)
      obtain ⟨q', hq', hm'⟩ := hmove r' (hu'.trans hu.symm)
      have hrank := rank_move s service d hp
      rw [hm] at hrank
      have hnow₁ : (move s service d q).1.now = max d.now q.time := rfl
      obtain ⟨d₂, earlier₂, later₂, ha⟩ := ih _ hrank (move s service d q).1 earlier₁ later₁
        (by omega) (by omega) rfl
      refine ⟨d₂, earlier₂, later₂, ha.first, ha.position.trans hlen, ?_, ?_, ha.last_le,
        ha.now_le, ?_, ?_⟩
      · exact .head ⟨q, hp, hm.symm⟩ ha.visits
      · rw [← hlen, ha.account, hlen]
        exact account_of_other hne d
      · rw [play_some hp, hm]
        exact ha.play_eq
      · rw [play_some hq', hm']
        exact ha.play_eq'

/-! ## What comes of a run -/

/-- From this state on the run `r` does these deeds and brings back this result. -/
structure Yields (s : TimedSolver) (service : TimedService) (d : Desk) (earlier : List Run)
    (r : Run) (later : List Run) (deeds : List (Nat × Deed))
    (result : Except SolveFault Delivery) : Prop where
  account : (play s service d (earlier ++ r :: later)).1.account earlier.length =
    d.account earlier.length ++ deeds
  runs : (play s service d (earlier ++ r :: later)).2[earlier.length]? =
    some { r with stage := .closed result }

theorem yields_closed (d : Desk) (earlier : List Run) (job : Appointment) (later : List Run)
    (result : Except SolveFault Delivery) :
    Yields s service d earlier ⟨job, .closed result⟩ later [] result := by
  -- by induction on the moves that are left, all of them moves of the others
  generalize hn : rank s (earlier ++ ⟨job, .closed result⟩ :: later) = n
  induction n using Nat.strongRecOn generalizing d earlier later with
  | ind n ih =>
    subst hn
    cases hp : pick (earlier ++ ⟨job, .closed result⟩ :: later) with
    | none => constructor <;> simp [play_none hp]
    | some p =>
      rcases own_or_other s service hp d with he | ⟨hne, earlier₁, later₁, hlen, hmove⟩
      · have hdue := (isFirst_of_pick hp).due
        rw [he] at hdue
        simp [Run.due] at hdue
      · obtain ⟨q, hq, hm⟩ := hmove _ rfl
        obtain rfl : q = p := Option.some.inj (hq.symm.trans hp)
        have hrank := rank_move s service d hp
        rw [hm] at hrank
        have hy := ih _ hrank (move s service d q).1 earlier₁ later₁ rfl
        refine ⟨?_, ?_⟩
        · rw [play_some hp, hm, ← hlen, hy.account, hlen]
          exact congrArg (· ++ []) (account_of_other hne d)
        · rw [play_some hp, hm, ← hlen, hy.runs]

theorem Yields.of_last {d d₂ : Desk} {earlier earlier₁ later later₁ : List Run} {r : Run}
    {job : Appointment} {deeds : List (Nat × Deed)} {result : Except SolveFault Delivery}
    (h : ∀ deeds' result',
      Yields s service d₂ earlier₁ ⟨job, .closed result⟩ later₁ deeds' result' →
      Yields s service d earlier r later (deeds ++ deeds') result') :
    Yields s service d earlier r later deeds result := by
  have hy := h [] result (yields_closed d₂ earlier₁ job later₁ result)
  rwa [List.append_nil] at hy

/-- A turn comes first, and then what comes of the run from the state after it. -/
theorem Yields.turn {d : Desk} {p : Pick} (h : p.IsFirst) {deeds : List (Nat × Deed)}
    {result : Except SolveFault Delivery}
    (hy : Yields s service (p.act s service d).1 p.earlier
      { p.run with stage := (p.act s service d).2 } p.later deeds result) :
    Yields s service d p.earlier p.run p.later
      ((Run.turn s p.run.job (max d.now p.time) (d.setting service) p.run.stage).deeds.map
        (max d.now p.time, ·) ++ deeds) result := by
  have hplay : play s service d (p.earlier ++ p.run :: p.later) =
      play s service (p.act s service d).1
        (p.earlier ++ { p.run with stage := (p.act s service d).2 } :: p.later) :=
    play_some (pick_of_isFirst h)
  refine ⟨?_, ?_⟩
  · rw [hplay, hy.account, ← List.append_assoc]
    exact congrArg (· ++ deeds) (Desk.account_after ..)
  · rw [hplay, hy.runs]

/-- The schedule comes to the next turn of a run at the moment that the run waits for, whatever the
others do in between. The others do the same if the run has another appointment, by which it waits
as long and takes the same turn. -/
theorem exists_turns (s : TimedSolver) (service : TimedService) (job job' : Appointment)
    (stage : Stage) {u last : Nat}
    (hu : Run.due ⟨job, stage⟩ = some u) (hu' : Run.due ⟨job', stage⟩ = some u)
    (hsame : ∀ f, Run.turn s job' (max last u) f stage = Run.turn s job (max last u) f stage)
    (d : Desk) (earlier later : List Run) (hlast : last ≤ d.now) (hnow : d.now ≤ max last u) :
    ∃ d₁ d₂ earlier₁ later₁, earlier₁.length = earlier.length ∧
      Visits s service (d, earlier ++ ⟨job, stage⟩ :: later)
        (d₁, earlier₁ ++ ⟨job, stage⟩ :: later₁) ∧
      Visits s service (d, earlier ++ ⟨job, stage⟩ :: later) (d₂, earlier₁ ++
        ⟨job, (Run.turn s job (max last u) (d₁.setting service) stage).stage⟩ :: later₁) ∧
      d₂.now = max last u ∧
      ∀ j, j = job ∨ j = job' → ∀ deeds result,
        Yields s service d₂ earlier₁
          ⟨j, (Run.turn s job (max last u) (d₁.setting service) stage).stage⟩
          later₁ deeds result →
        Yields s service d earlier ⟨j, stage⟩ later
          ((Run.turn s job (max last u) (d₁.setting service) stage).deeds.map
            (max last u, ·) ++ deeds) result := by
  obtain ⟨d₁, earlier₁, later₁, ha⟩ := exists_approach s service hu hu' d earlier later hlast hnow
  have hmoment : max d₁.now u = max last u := by
    have h1 := ha.last_le
    have h2 := ha.now_le
    omega
  -- the turn is taken at the moment of the pick or now, and both bounds on now meet there
  refine ⟨d₁, (Pick.act s service d₁ ⟨u, earlier₁, ⟨job, stage⟩, later₁⟩).1, earlier₁, later₁,
    ha.position, ha.visits, ?_, hmoment, ?_⟩
  · rw [← hmoment]
    exact ha.visits.tail ⟨_, pick_of_isFirst ha.first, rfl⟩
  rintro j hj deeds result hy
  rw [← hmoment] at hsame hy ⊢
  -- the two appointments differ in nothing that matters here
  obtain ⟨hdue, hturn, hplay⟩ : Run.due ⟨j, stage⟩ = Run.due ⟨job, stage⟩ ∧
      (∀ f, Run.turn s j (max d₁.now u) f stage = Run.turn s job (max d₁.now u) f stage) ∧
      play s service d (earlier ++ ⟨j, stage⟩ :: later) =
        play s service d₁ (earlier₁ ++ ⟨j, stage⟩ :: later₁) := by
    rcases hj with rfl | rfl
    · exact ⟨rfl, fun _ => rfl, ha.play_eq⟩
    · exact ⟨hu'.trans hu.symm, hsame, ha.play_eq'⟩
  have hfirst : Pick.IsFirst ⟨u, earlier₁, ⟨j, stage⟩, later₁⟩ :=
    ha.first.congr rfl hdue rfl rfl
  have hact : Pick.act s service d₁ ⟨u, earlier₁, ⟨j, stage⟩, later₁⟩ =
      Pick.act s service d₁ ⟨u, earlier₁, ⟨job, stage⟩, later₁⟩ := by
    simp only [Pick.act, Run.act, Desk.setting] at hturn ⊢
    rw [hturn]
  have hafter : Yields s service (Pick.act s service d₁ ⟨u, earlier₁, ⟨j, stage⟩, later₁⟩).1
      earlier₁ ⟨j, (Pick.act s service d₁ ⟨u, earlier₁, ⟨j, stage⟩, later₁⟩).2⟩ later₁ deeds
      result := by
    rw [hact]
    exact hy
  have ht := Yields.turn hfirst hafter
  dsimp only at ht
  rw [hturn] at ht
  refine ⟨?_, ?_⟩
  · calc (play s service d (earlier ++ ⟨j, stage⟩ :: later)).1.account earlier.length
        = (play s service d₁ (earlier₁ ++ ⟨j, stage⟩ :: later₁)).1.account earlier₁.length := by
          rw [hplay, ha.position]
      _ = d₁.account earlier₁.length ++
            ((Run.turn s job (max d₁.now u) (d₁.setting service) stage).deeds.map
              (max d₁.now u, ·) ++ deeds) := ht.account
      _ = _ := by rw [ha.position, ha.account]
  · rw [hplay, ← ha.position, ht.runs]

/-- `exists_turns` for one appointment. -/
theorem exists_turn (s : TimedSolver) (service : TimedService) (r : Run) {u last : Nat}
    (hu : r.due = some u) (d : Desk) (earlier later : List Run) (hlast : last ≤ d.now)
    (hnow : d.now ≤ max last u) :
    ∃ (d₁ d₂ : Desk) (earlier₁ later₁ : List Run), d₂.now = max last u ∧ ∀ deeds result,
      Yields s service d₂ earlier₁
        { r with stage := (Run.turn s r.job (max last u) (d₁.setting service) r.stage).stage }
        later₁ deeds result →
      Yields s service d earlier r later
        ((Run.turn s r.job (max last u) (d₁.setting service) r.stage).deeds.map
          (max last u, ·) ++ deeds) result := by
  obtain ⟨d₁, d₂, earlier₁, later₁, -, -, -, hnow₂, hy⟩ :=
    exists_turns s service r.job r.job r.stage hu hu (fun _ => rfl) d earlier later hlast hnow
  exact ⟨d₁, d₂, earlier₁, later₁, hnow₂, hy r.job (.inl rfl)⟩

end Schedule

end PlanCourier

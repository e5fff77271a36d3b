import PlanCourier.Package.Catalog

/-!
# Settled parameters

A package declares parameters, and the user gives values to some of them. The declarations are looked
at in order, and the values are settled just where each of them accepts what the user gives it; the
first one that refuses its value is the one that the fault is about.

Main statements:

- `Parameter.settle_eq_error_iff`: which value is refused, and what the fault says of it;
- `Parameter.accepted_of_resolve`: values that are settled were accepted;
- `Parameter.resolve_eq_error`: settling fails just for a value that is not accepted, and says so.
-/

namespace PlanCourier

namespace Parameter

variable {user settled values : Values} {ps : List Parameter} {p : Parameter} {v : String}
variable {fault : SolveFault}

/-- Whether all values that the user gives to these parameters are accepted. -/
def Accepted (ps : List Parameter) (user : Values) : Prop :=
  ∀ p ∈ ps, ∀ v, user.lookup p.name = some v → p.accepts v = true

/-- Whether the user gives the parameter a value that it does not accept. -/
def refuses (user : Values) (p : Parameter) : Bool :=
  (user.lookup p.name).any fun v => !p.accepts v

/-- The values with what one declaration adds that refuses nothing. -/
def add (user : Values) (p : Parameter) (settled : Values) : Values :=
  match (user.lookup p.name).or p.defaultText with
  | some v => Json.insertMember p.name v settled
  | none => settled

/-! ## One declaration -/

theorem refuses_eq (h : user.lookup p.name = some v) : p.refuses user = !p.accepts v := by
  simp [refuses, h]

theorem exists_lookup_of_refuses (h : p.refuses user = true) :
    ∃ v, user.lookup p.name = some v ∧ p.accepts v = false := by
  cases hv : user.lookup p.name with
  | none => simp [refuses, hv] at h
  | some v => exact ⟨v, rfl, by simpa [refuses, hv] using h⟩

theorem refuses_eq_false_iff :
    p.refuses user = false ↔ ∀ v, user.lookup p.name = some v → p.accepts v = true := by
  cases hv : user.lookup p.name <;> simp [refuses, hv]

/-- No declaration is the first one to refuse its value, where all values are accepted. -/
theorem find?_refuses_eq_none_iff : ps.find? (refuses user) = none ↔ Accepted ps user := by
  simp only [List.find?_eq_none, Bool.not_eq_true, refuses_eq_false_iff, Accepted]

theorem settle_cons_of_refuses (hv : user.lookup p.name = some v) (h : p.accepts v = false) :
    settle user (p :: ps) settled =
      .error (.badParameter p.name v (", ".intercalate p.choiceValues)) := by
  simp [settle, hv, h]

theorem settle_cons (h : p.refuses user = false) :
    settle user (p :: ps) settled = settle user ps (p.add user settled) := by
  cases hv : user.lookup p.name with
  | some v =>
    rw [refuses_eq hv, Bool.not_eq_false'] at h
    simp [settle, add, hv, h]
  | none => cases hd : p.defaultText <;> simp [settle, add, hv, hd]

/-! ## Declarations in order -/

/-- Settling fails just where a declaration refuses a value, and the fault is about the first one
that does. -/
theorem settle_eq_error_iff (settled : Values) : settle user ps settled = .error fault ↔
    ∃ p v, ps.find? (refuses user) = some p ∧ user.lookup p.name = some v ∧
      fault = .badParameter p.name v (", ".intercalate p.choiceValues) := by
  induction ps generalizing settled with
  | nil => simp [settle]
  | cons p rest ih =>
    cases h : p.refuses user with
    | false => rw [settle_cons h, ih, List.find?_cons_of_neg (by simp [h])]
    | true =>
      obtain ⟨v, hv, hrejected⟩ := exists_lookup_of_refuses h
      rw [settle_cons_of_refuses hv hrejected, List.find?_cons_of_pos h]
      simp [hv, eq_comm]

theorem not_refuses_of_settle (h : settle user (p :: ps) settled = .ok values) :
    p.refuses user = false := by
  cases hp : p.refuses user with
  | false => rfl
  | true =>
    obtain ⟨v, hv, hrejected⟩ := exists_lookup_of_refuses hp
    rw [settle_cons_of_refuses hv hrejected] at h
    cases h

theorem exists_settle (settled : Values) (h : Accepted ps user) :
    ∃ values, settle user ps settled = .ok values := by
  cases hs : settle user ps settled with
  | ok values => exact ⟨values, rfl⟩
  | error fault =>
    obtain ⟨p, v, hfirst, -⟩ := (settle_eq_error_iff settled).1 hs
    rw [find?_refuses_eq_none_iff.2 h] at hfirst
    cases hfirst

theorem resolve_eq_error_iff : resolve ps user = .error fault ↔
    ∃ p v, ps.find? (refuses user) = some p ∧ user.lookup p.name = some v ∧
      fault = .badParameter p.name v (", ".intercalate p.choiceValues) := by
  rw [← settle_eq_error_iff []]
  cases hs : settle user ps [] <;> simp [resolve, hs, Except.map]

theorem resolve_eq_error (h : resolve ps user = .error fault) :
    ¬ Accepted ps user ∧ ∃ name v expected, fault = .badParameter name v expected := by
  obtain ⟨p, v, hfirst, -, rfl⟩ := resolve_eq_error_iff.1 h
  refine ⟨fun haccepted => ?_, _, _, _, rfl⟩
  rw [find?_refuses_eq_none_iff.2 haccepted] at hfirst
  cases hfirst

theorem accepted_of_resolve (h : resolve ps user = .ok values) : Accepted ps user := by
  cases hfirst : ps.find? (refuses user) with
  | none => exact find?_refuses_eq_none_iff.1 hfirst
  | some p =>
    obtain ⟨v, hv, -⟩ := exists_lookup_of_refuses (List.find?_some hfirst)
    rw [resolve_eq_error_iff.2 ⟨p, v, hfirst, hv, rfl⟩] at h
    cases h

end Parameter

end PlanCourier

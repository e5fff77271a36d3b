import PlanCourier.Proofs.Package.Names
import PlanCourier.Proofs.Package.Resolution

/-!
# Values outside the choices of a parameter

What is sent under the name of a declared parameter is the user's value or a default. The user's
values are looked at before they are sent, so every declaration of a name accepts the value that the
user gives it. Defaults are not looked at: one may lie outside the choices that its own declaration
names, or outside those of another declaration of the same name. It is sent all the same, and the
same value is refused when it is given as the user's.

Main statements:

- `Parameter.accepted_values_iff`: when every value that is sent is one that may be sent;
- `Parameter.resolve_values_iff`: just then resolving the resolved values gives the same values;
- `values_for_choices`: both, for a catalog and any service behind it;
- `default_outside_choices_sent`: a value that is sent, and refused when it is sent again.
-/

namespace PlanCourier

open Json (Ascending lookup_eq_some_iff_mem)

namespace Parameter

variable {user values : Values} {ps : List Parameter}

/-- Every default that counts for want of a value of the user is accepted by all parameters of its
name. -/
def DefaultsFit (ps : List Parameter) (user : Values) : Prop :=
  ∀ p ∈ ps, user.lookup p.name = none → ∀ d ∈ lastDefault ps p.name, p.accepts d = true

theorem exists_resolve (h : Accepted ps user) : ∃ values, resolve ps user = .ok values := by
  obtain ⟨settled, hs⟩ := exists_settle [] h
  exact ⟨_, resolve_of_settle hs⟩

/-- A value of the user is accepted; what is not accepted is a default. -/
theorem accepts_or_default (huser : Ascending user) (h : resolve ps user = .ok values)
    {p : Parameter} (hp : p ∈ ps) {v : String} (hv : values.lookup p.name = some v) :
    p.accepts v = true ∨ user.lookup p.name = none ∧ lastDefault ps p.name = some v := by
  rw [lookup_resolve huser h] at hv
  cases hgiven : user.lookup p.name with
  | some u =>
    obtain rfl : u = v := by simpa [hgiven] using hv
    exact .inl (accepted_of_resolve h p hp u hgiven)
  | none => exact .inr ⟨rfl, by simpa [hgiven] using hv⟩

theorem accepted_values_iff (huser : Ascending user) (h : resolve ps user = .ok values) :
    Accepted ps values ↔ DefaultsFit ps user := by
  constructor
  · intro hall p hp hnone d hd
    apply hall p hp d
    rw [lookup_resolve huser h, hnone]
    exact hd
  · intro hfit p hp v hv
    obtain haccepted | ⟨hnone, hd⟩ := accepts_or_default huser h hp hv
    · exact haccepted
    · exact hfit p hp hnone v hd

/-- Where the resolved values can be resolved, nothing is added to them and nothing replaced: every
name that has a default leads to a value already. -/
theorem eq_of_resolve_values (huser : Ascending user) (h : resolve ps user = .ok values)
    {again : Values} (hagain : resolve ps values = .ok again) : again = values := by
  have hvalues : Ascending values := ascending_resolve h
  refine (ascending_resolve hagain).ext hvalues fun name => ?_
  calc again.lookup name
      = (values.lookup name).or (lastDefault ps name) := lookup_resolve hvalues hagain name
    _ = ((user.lookup name).or (lastDefault ps name)).or (lastDefault ps name) := by
        rw [lookup_resolve huser h]
    _ = (user.lookup name).or (lastDefault ps name) := by rw [Option.or_assoc, Option.or_self]
    _ = values.lookup name := (lookup_resolve huser h name).symm

theorem resolve_values_iff (huser : Ascending user) (h : resolve ps user = .ok values) :
    resolve ps values = .ok values ↔ DefaultsFit ps user := by
  rw [← accepted_values_iff huser h]
  constructor
  · exact accepted_of_resolve
  · intro haccepted
    obtain ⟨again, hagain⟩ := exists_resolve haccepted
    rw [hagain, eq_of_resolve_values huser h hagain]

/-- Where the resolved values cannot be resolved, it is a default that is refused. -/
theorem refused_default_of_not_fit (huser : Ascending user) (h : resolve ps user = .ok values)
    (hfit : ¬ DefaultsFit ps user) : ∃ p ∈ ps, ∃ d, user.lookup p.name = none ∧
      lastDefault ps p.name = some d ∧ p.accepts d = false ∧
      resolve ps values = .error (.badParameter p.name d (", ".intercalate p.choiceValues)) := by
  cases hagain : resolve ps values with
  | ok again =>
    obtain rfl := eq_of_resolve_values huser h hagain
    exact absurd ((resolve_values_iff huser h).1 hagain) hfit
  | error fault =>
    obtain ⟨p, d, hfound, hd, rfl⟩ := resolve_eq_error_iff.1 hagain
    have hp : p ∈ ps := List.mem_of_find?_eq_some hfound
    have hrefused : p.accepts d = false := by
      simpa [refuses_eq hd] using List.find?_some hfound
    obtain haccepted | ⟨hnone, hdefault⟩ := accepts_or_default huser h hp hd
    · simp [hrefused] at haccepted
    · exact ⟨p, hp, d, hnone, hdefault, hrefused, rfl⟩

end Parameter

namespace Catalog

variable {σ : Type} {fetch : Fetch (StateM σ)} {c c' : Catalog} {s s' : σ} {key : String}
  {user values : Values} {l : Listing} {p : Package}

/-- What is read successfully is read from the listing that the catalog holds afterwards. -/
theorem exists_held_of_reading {f : Listing → Except SolveFault α} {a : α}
    (h : (c.reading fetch f).run s = ((.ok a, c'), s')) : ∃ l, c' = ⟨some l⟩ ∧ f l = .ok a := by
  obtain ⟨cache⟩ := c
  cases cache with
  | some l =>
    obtain ⟨hleft, -⟩ := Prod.mk.inj ((run_reading_held fetch l s f).symm.trans h)
    obtain ⟨hread, rfl⟩ := Prod.mk.inj hleft
    exact ⟨l, rfl, hread⟩
  | none =>
    simp only [reading, index, refresh, StateT.run_bind] at h
    cases hfetch : fetch.run s with
    | mk fetched t =>
      rw [hfetch] at h
      cases fetched with
      | error cause => cases h
      | ok l =>
        obtain ⟨hleft, -⟩ := Prod.mk.inj h
        obtain ⟨hread, rfl⟩ := Prod.mk.inj hleft
        exact ⟨l, rfl, hread⟩

theorem exists_package_of_resolve
    (h : (c.resolve fetch key user).run s = ((.ok values, c'), s')) :
    ∃ l p, c' = ⟨some l⟩ ∧ l.lookup key = some p ∧
      Parameter.resolve p.solveParameters user = .ok values := by
  obtain ⟨l, rfl, hl⟩ := exists_held_of_reading h
  unfold find at hl
  cases hp : l.lookup key with
  | none => simp [hp, Except.bind] at hl
  | some p => exact ⟨l, p, rfl, hp, by simpa [hp, Except.bind] using hl⟩

theorem run_resolve_held (hp : l.lookup key = some p) (user : Values) :
    (resolve fetch ⟨some l⟩ key user).run s =
      ((Parameter.resolve p.solveParameters user, ⟨some l⟩), s) :=
  (leadsTo_iff.2 hp).resolve user

end Catalog

/-- What is sent to a package under the names of its parameters, for any catalog, service and values
of the user for which resolving succeeds.

A value that some parameter of its name does not accept is a default. So all values are accepted just
where the defaults fit, and just then the resolved values are resolved to themselves. Otherwise
resolving them is refused, for a default that was sent. -/
theorem values_for_choices {σ : Type} {fetch : Catalog.Fetch (StateM σ)} {c c' : Catalog} {s s' : σ}
    {key : String} {user values : Values} (huser : Ascending user)
    (h : (c.resolve fetch key user).run s = ((.ok values, c'), s')) :
    ∃ l p, c' = ⟨some l⟩ ∧ l.lookup key = some p ∧
      (∀ name v, (name, v) ∈ values → ∀ q ∈ p.solveParameters, q.name = name →
        q.accepts v = true ∨
          user.lookup name = none ∧ Parameter.lastDefault p.solveParameters name = some v) ∧
      ((∀ name v, (name, v) ∈ values → ∀ q ∈ p.solveParameters, q.name = name →
        q.accepts v = true) ↔ Parameter.DefaultsFit p.solveParameters user) ∧
      ((c'.resolve fetch key values).run s' = ((.ok values, c'), s') ↔
        Parameter.DefaultsFit p.solveParameters user) ∧
      (¬ Parameter.DefaultsFit p.solveParameters user →
        ∃ q ∈ p.solveParameters, ∃ d, (q.name, d) ∈ values ∧ user.lookup q.name = none ∧
          Parameter.lastDefault p.solveParameters q.name = some d ∧ q.accepts d = false ∧
          (c'.resolve fetch key values).run s' =
            ((.error (.badParameter q.name d (", ".intercalate q.choiceValues)), c'), s')) := by
  obtain ⟨l, p, rfl, hp, hvalues⟩ := Catalog.exists_package_of_resolve h
  have hasc : Ascending values := Parameter.ascending_resolve hvalues
  have hentries : (∀ name v, (name, v) ∈ values → ∀ q ∈ p.solveParameters, q.name = name →
      q.accepts v = true) ↔ Parameter.Accepted p.solveParameters values := by
    constructor
    · intro hall q hq v hv
      exact hall q.name v ((lookup_eq_some_iff_mem hasc).1 hv) q hq rfl
    · rintro hall _ v hv q hq rfl
      exact hall q hq v ((lookup_eq_some_iff_mem hasc).2 hv)
  refine ⟨l, p, rfl, hp, ?entry, ?all, ?again, ?refused⟩
  case entry =>
    rintro _ v hv q hq rfl
    exact Parameter.accepts_or_default huser hvalues hq ((lookup_eq_some_iff_mem hasc).2 hv)
  case all => exact hentries.trans (Parameter.accepted_values_iff huser hvalues)
  case again =>
    rw [Catalog.run_resolve_held hp, ← Parameter.resolve_values_iff huser hvalues]
    constructor
    · intro hrun
      exact (Prod.mk.inj (Prod.mk.inj hrun).1).1
    · intro hresolved
      rw [hresolved]
  case refused =>
    intro hfit
    obtain ⟨q, hq, d, hnone, hdefault, hrefused, hagain⟩ :=
      Parameter.refused_default_of_not_fit huser hvalues hfit
    have hsent : values.lookup q.name = some d := by
      rw [Parameter.lookup_resolve huser hvalues, hnone]
      exact hdefault
    refine ⟨q, hq, d, (lookup_eq_some_iff_mem hasc).1 hsent, hnone, hdefault, hrefused, ?_⟩
    rw [Catalog.run_resolve_held hp, hagain]

/-- Defaults that are numbers, null or a choice fit, and what was sent can be sent again. -/
theorem planner_values_again :
    let l : Listing := [("planner", Sample.planner)]
    let values : Values := [("bound", "20"), ("search", "lazy"), ("seed", "7")]
    (Catalog.empty.resolve (Sample.offering l) "planner" [("seed", "7")]).run 0 =
      ((.ok values, ⟨some l⟩), 1) ∧
    (Catalog.resolve (Sample.offering l) ⟨some l⟩ "planner" values).run 1 =
      ((.ok values, ⟨some l⟩), 1) := by
  intro l values
  have hrun : (Catalog.empty.resolve (Sample.offering l) "planner" [("seed", "7")]).run 0 =
      ((.ok values, ⟨some l⟩), 1) := rfl
  obtain ⟨l', p, hl, hp, -, -, hagain, -⟩ := values_for_choices (by decide +kernel) hrun
  obtain rfl : l = l' := by simpa using hl
  obtain rfl : Sample.planner = p := Option.some.inj hp
  refine ⟨hrun, hagain.2 ?_⟩
  unfold Parameter.DefaultsFit
  decide +kernel

namespace Sample

/-- A search that may be `lazy` or `eager`, and is `greedy` unless the user says otherwise. -/
def search : Parameter :=
  ⟨"search", "categorical", none, some (.text "greedy"), [⟨"lazy", ""⟩, ⟨"eager", ""⟩]⟩

def searcher : Package := ⟨"searcher", none, [("solve", ⟨[search], none⟩)]⟩

def searcherRecord : Json :=
  .object [("searcher", .object [("endpoint", .object [("services", .object [("solve",
    .object [("args", .list [.object [("name", .text "search"), ("type", .text "categorical"),
      ("default", .text "greedy"), ("choices", .list [.object [("value", .text "lazy")],
        .object [("value", .text "eager")]])]])])])])])]

end Sample

/-- A default outside the choices is sent, and refused when the user gives it. -/
theorem default_outside_choices_sent :
    let l : Listing := [("searcher", Sample.searcher)]
    Listing.decode Sample.searcherRecord.normal = .ok l ∧
    Sample.searcher.solveParameters = [Sample.search] ∧
    (Catalog.empty.resolve (Sample.offering l) "searcher" []).run 0 =
      ((.ok [("search", "greedy")], ⟨some l⟩), 1) ∧
    Sample.search.accepts "greedy" = false ∧
    (Catalog.resolve (Sample.offering l) ⟨some l⟩ "searcher" [("search", "greedy")]).run 1 =
      ((.error (.badParameter "search" "greedy" "lazy, eager"), ⟨some l⟩), 1) := by
  refine ⟨rfl, rfl, rfl, ?_, rfl⟩
  decide

end PlanCourier

import PlanCourier.Proofs.Json.Members
import PlanCourier.Proofs.Package.Parameters

/-!
# What parameters are resolved to

The values that are sent for a package's declarations and the user's values, name by name. A value of
the user counts before any default, whether the name is declared or not. Where the user gives none,
the last declaration of the name that brings a default gives it; declarations may share a name, and
one without a default, or with null for one, changes nothing of what an earlier one gave.

Main statements:

- `lookup_settle_of_none` and `lookup_settle_of_some`: what a name leads to after the declarations;
- `lookup_resolve`: what it leads to in the end;
- `resolution_of_parameters`: all of it, for the parameters of a package.
-/

namespace PlanCourier

open Json (Ascending)

namespace Parameter

variable {user settled values : Values} {ps : List Parameter} {p : Parameter} {name v : String}

/-- Whether the parameter brings a default: one is there and is not null. -/
def bringsDefault (p : Parameter) : Bool := p.default.any (· != .null)

/-- The default that the last declaration of a name brings, of those that bring one. -/
def lastDefault (ps : List Parameter) (name : String) : Option String :=
  (ps.filter fun p => p.name == name && p.bringsDefault).getLast?.bind defaultText

theorem isSome_defaultText : p.defaultText.isSome = p.bringsDefault := by
  unfold defaultText bringsDefault
  rcases p.default with _ | d
  · rfl
  · cases d <;> rfl

/-! ## Defaults -/

theorem lastDefault_cons_of_ne (h : p.name ≠ name) :
    lastDefault (p :: ps) name = lastDefault ps name := by
  simp [lastDefault, h]

/-- A later declaration that brings a default counts before the first one. -/
theorem lastDefault_cons (p : Parameter) (ps : List Parameter) :
    lastDefault (p :: ps) p.name = (lastDefault ps p.name).or p.defaultText := by
  have hp : p.defaultText.isSome = p.bringsDefault := isSome_defaultText
  cases hb : p.bringsDefault with
  | false =>
    rw [hb, Option.isSome_eq_false_iff, Option.isNone_iff_eq_none] at hp
    simp [lastDefault, hb, hp]
  | true =>
    unfold lastDefault
    rw [List.filter_cons_of_pos (by simp [hb]), List.getLast?_cons]
    cases hlast : (ps.filter fun q => q.name == p.name && q.bringsDefault).getLast? with
    | none => simp
    | some q =>
      -- the last one of the others brings a default too, so it is not passed over
      have hmem := (List.mem_filter.1 (List.mem_of_getLast? hlast)).2
      have hq : q.defaultText.isSome = true := by
        rw [isSome_defaultText]
        simp at hmem
        exact hmem.2
      obtain ⟨d, hd⟩ := Option.isSome_iff_exists.1 hq
      simp [hd]

/-! ## Declarations in order -/

theorem lookup_add (n : String) : (p.add user settled).lookup n =
    if n = p.name then ((user.lookup p.name).or p.defaultText).or (settled.lookup n)
    else settled.lookup n := by
  unfold add
  cases (user.lookup p.name).or p.defaultText with
  | none => simp
  | some v => simp [Json.lookup_insertMember]

theorem ascending_add (h : Ascending settled) : Ascending (p.add user settled) := by
  unfold add
  split
  · exact Json.ascending_insertMember h
  · exact h

theorem ascending_settle (hs : Ascending settled) (h : settle user ps settled = .ok values) :
    Ascending values := by
  induction ps generalizing settled with
  | nil =>
    simp only [settle, Except.ok.injEq] at h
    exact h ▸ hs
  | cons p rest ih =>
    rw [settle_cons (not_refuses_of_settle h)] at h
    exact ih (ascending_add hs) h

theorem lookup_settle_of_none (h : settle user ps settled = .ok values)
    (hnone : user.lookup name = none) :
    values.lookup name = (lastDefault ps name).or (settled.lookup name) := by
  induction ps generalizing settled with
  | nil =>
    simp only [settle, Except.ok.injEq] at h
    simp [h, lastDefault]
  | cons p rest ih =>
    rw [settle_cons (not_refuses_of_settle h)] at h
    rw [ih h, lookup_add]
    by_cases hname : p.name = name
    · subst hname
      simp [hnone, lastDefault_cons, Option.or_assoc]
    · rw [lastDefault_cons_of_ne hname, if_neg (Ne.symm hname)]

/-- A value of the user stays what its name leads to, however often the name is declared. -/
theorem lookup_settle_of_some (h : settle user ps settled = .ok values)
    (hv : user.lookup name = some v) : values.lookup name =
      if ps.any (·.name == name) then some v else settled.lookup name := by
  induction ps generalizing settled with
  | nil =>
    simp only [settle, Except.ok.injEq] at h
    simp [h]
  | cons p rest ih =>
    rw [settle_cons (not_refuses_of_settle h)] at h
    rw [ih h, lookup_add]
    by_cases hname : p.name = name
    · subst hname
      simp [hv]
    · simp [hname, Ne.symm hname]

/-! ## Values that nothing is declared for -/

theorem lookup_undeclared (h : Ascending user) (name : String) :
    (undeclared ps user).reverse.lookup name =
      if ps.any (·.name == name) then none else user.lookup name := by
  -- no name stands twice among the values, so it does not matter from which end one looks
  have hnodup : ((undeclared ps user).reverse.map (·.1)).Nodup := by
    rw [List.map_reverse, List.nodup_reverse]
    exact h.nodup.sublist (List.filter_sublist.map _)
  apply Option.ext
  intro v
  rw [Json.lookup_eq_some_iff_mem_of_nodup hnodup, List.mem_reverse, undeclared, List.mem_filter,
    ← Json.lookup_eq_some_iff_mem h]
  by_cases hdeclared : ps.any (·.name == name) = true <;> simp [hdeclared]

theorem resolve_of_settle (h : settle user ps [] = .ok settled) :
    resolve ps user = .ok ((undeclared ps user).foldl
      (fun vs (name, v) => Json.insertMember name v vs) settled) := by
  simp [resolve, h, Except.map]

theorem lookup_resolve (huser : Ascending user) (h : resolve ps user = .ok values)
    (name : String) : values.lookup name = (user.lookup name).or (lastDefault ps name) := by
  obtain ⟨settled, hs⟩ : ∃ settled, settle user ps [] = .ok settled := by
    cases hs : settle user ps [] with
    | ok settled => exact ⟨settled, rfl⟩
    | error fault => simp [resolve, hs, Except.map] at h
  rw [resolve_of_settle hs, Except.ok.injEq] at h
  rw [← h, Json.lookup_foldl_insertMember, lookup_undeclared huser]
  cases hv : user.lookup name with
  | none => simp [lookup_settle_of_none hs hv]
  | some v =>
    rw [lookup_settle_of_some hs hv]
    by_cases hdeclared : ps.any (·.name == name) = true <;> simp [hdeclared]

theorem ascending_resolve (h : resolve ps user = .ok values) : Ascending values := by
  cases hs : settle user ps [] with
  | error fault => simp [resolve, hs, Except.map] at h
  | ok settled =>
    rw [resolve_of_settle hs, Except.ok.injEq] at h
    rw [← h]
    apply Json.ascending_foldl_insertMember
    exact ascending_settle Json.ascending_nil hs

end Parameter

/-- What the parameters of a package are resolved to, for any values of the user.

Resolving fails just where a declared parameter refuses what the user gives it. The fault is about
the first such parameter in the order of declarations: it has its name, the user's value, and the
values of its choice in order. Otherwise every name leads to the user's value, or else to the last
default that a declaration of it brings, or to nothing. -/
theorem resolution_of_parameters (p : Package) {user : Values} (huser : Ascending user) :
    (∀ fault, Parameter.resolve p.solveParameters user = .error fault ↔
      ∃ before q after v, p.solveParameters = before ++ q :: after ∧
        (∀ r ∈ before, ∀ u, user.lookup r.name = some u → r.accepts u = true) ∧
        user.lookup q.name = some v ∧ q.accepts v = false ∧
        fault = .badParameter q.name v (", ".intercalate q.choiceValues)) ∧
    ((∀ q ∈ p.solveParameters, ∀ v, user.lookup q.name = some v → q.accepts v = true) →
      ∃ values, Parameter.resolve p.solveParameters user = .ok values ∧ Ascending values ∧
        ∀ name, values.lookup name =
          (user.lookup name).or (Parameter.lastDefault p.solveParameters name)) := by
  refine ⟨fun fault => ?_, fun haccepted => ?_⟩
  · rw [Parameter.resolve_eq_error_iff]
    constructor
    · rintro ⟨q, v, hfound, hv, rfl⟩
      obtain ⟨hq, before, after, hsplit, hbefore⟩ := List.find?_eq_some_iff_append.1 hfound
      rw [Parameter.refuses_eq hv, Bool.not_eq_true'] at hq
      refine ⟨before, q, after, v, hsplit, fun r hr => ?_, hv, hq, rfl⟩
      exact Parameter.refuses_eq_false_iff.1 (by simpa using hbefore r hr)
    · rintro ⟨before, q, after, v, hsplit, hbefore, hv, hq, rfl⟩
      refine ⟨q, v, List.find?_eq_some_iff_append.2 ⟨?_, before, after, hsplit, fun r hr => ?_⟩,
        hv, rfl⟩
      · simp [Parameter.refuses_eq hv, hq]
      · simp [Parameter.refuses_eq_false_iff.2 (hbefore r hr)]
  · obtain ⟨settled, hs⟩ := Parameter.exists_settle [] haccepted
    have hresolved := Parameter.resolve_of_settle hs
    exact ⟨_, hresolved, Parameter.ascending_resolve hresolved,
      fun name => Parameter.lookup_resolve huser hresolved name⟩

namespace Sample

/-- A package whose solve service declares `bound` three times, the last time with null. -/
def planner : Package :=
  { name := "planner"
    description := none
    services := [("solve",
      { args :=
          [⟨"domain", "file", none, none, []⟩,
            ⟨"search", "categorical", none, some (.text "lazy"),
              [⟨"lazy", "Lazy"⟩, ⟨"eager", "Eager"⟩]⟩,
            ⟨"bound", "int", none, some (.ofNat 10), []⟩,
            ⟨"bound", "int", none, some (.ofNat 20), []⟩,
            ⟨"bound", "int", none, some .null, []⟩]
        returns := none })] }

end Sample

/-- The user's values count, declared or not, and the second bound is the last one that is there;
another value of the search is refused. -/
theorem resolution_of_planner :
    (∃ values, Parameter.resolve Sample.planner.solveParameters
        [("domain", "d"), ("search", "eager"), ("seed", "7")] = .ok values ∧
      values.lookup "bound" = some "20" ∧ values.lookup "search" = some "eager" ∧
      values.lookup "domain" = some "d" ∧ values.lookup "seed" = some "7") ∧
    Parameter.resolve Sample.planner.solveParameters [("bound", "x"), ("search", "greedy")] =
      .error (.badParameter "search" "greedy" "lazy, eager") := by
  have hasc : Ascending [("domain", "d"), ("search", "eager"), ("seed", "7")] := by decide +kernel
  have hasc' : Ascending [("bound", "x"), ("search", "greedy")] := by decide +kernel
  constructor
  · obtain ⟨values, hresolved, -, hlookup⟩ :=
      (resolution_of_parameters Sample.planner hasc).2 (by decide +kernel)
    refine ⟨values, hresolved, ?_, ?_, ?_, ?_⟩ <;> rw [hlookup] <;> decide +kernel
  · apply ((resolution_of_parameters Sample.planner hasc').1 _).2
    refine ⟨[], _, _, "greedy", rfl, ?_, rfl, by decide +kernel, ?_⟩
    · simp
    · decide +kernel

end PlanCourier

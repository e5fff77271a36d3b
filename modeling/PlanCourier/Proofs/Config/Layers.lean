import PlanCourier.Proofs.Config.Merge

/-!
# What layers of configuration are made of

Layers are read from texts: of YAML, and of environment variables. Whatever the texts are, in every
object of a layer the members stand in the order of their names, each name once, which is what
merging builds on. The layer of a file is an object besides.

Main statements:

- `Yaml.isTidy_of_read?`: what YAML texts stand for;
- `Variable.isTidy_ofText`: what the texts of variables stand for;
- `Config.isTidy_fileLayer` and `Config.isTidy_environmentLayer`: the layers;
- `Config.ofReadLayers_eq_ok`: when layers make a configuration;
- `Config.run_ofDirectory` and `Config.run_ofFile`: which layers are read from files.
-/

namespace PlanCourier

open Json (IsTidy)

/-! ## YAML texts -/

namespace Yaml

theorem isObject_ofPlain (s : String) : (ofPlain s).isObject = false := by
  unfold ofPlain
  split
  · rfl
  · split
    · rfl
    · split
      · rfl
      · split
        · rfl
        · split <;> rfl

theorem isObject_ofKind? {s : String} {kind : ScalarKind} {v : Json}
    (h : ofKind? s kind = some v) : v.isObject = false := by
  cases kind with
  | null =>
    obtain ⟨-, h⟩ := Option.ite_none_right_eq_some.1 h
    obtain rfl := Option.some.inj h
    rfl
  | _ =>
    obtain ⟨_, -, rfl⟩ := Option.map_eq_some_iff.1 h
    rfl

theorem isObject_ofScalar? {tag : Option (List UInt8)} {isPlain : Bool} {s : String} {v : Json}
    (h : ofScalar? tag isPlain s = some v) : v.isObject = false := by
  have hwritten : (if isPlain then ofPlain s else .text s).isObject = false := by
    split
    · exact isObject_ofPlain s
    · rfl
  unfold ofScalar? at h
  dsimp only at h
  split at h
  · exact Option.some.inj h ▸ hwritten
  · split at h
    · cases h
    · split at h
      · exact Option.some.inj h ▸ hwritten
      · split at h
        · exact isObject_ofKind? h
        · exact Option.some.inj h ▸ rfl

namespace Node

/-- However many aliases are left, a value that is read has this property. -/
structure Gives (Q : α → Prop) (x : Following α) : Prop where
  given : ∀ left r, x.run left = some r → Q r.1

namespace Gives

variable {Q : α → Prop}

theorem pure {a : α} (h : Q a) : Gives Q (pure a) := by
  constructor
  intro left r hr
  obtain rfl := Option.some.inj hr
  exact h

theorem failure : Gives Q (failure : Following α) := ⟨fun _ _ hr => nomatch hr⟩

theorem bind {P : β → Prop} {x : Following β} {f : β → Following α} (hx : Gives P x)
    (hf : ∀ b, P b → Gives Q (f b)) : Gives Q (x >>= f) := by
  constructor
  intro left r hr
  obtain ⟨s, hs, hr⟩ := Option.bind_eq_some_iff.1 hr
  exact (hf s.1 (hx.given left s hs)).given s.2 r hr

theorem any (x : Following α) : Gives (fun _ => True) x := ⟨fun _ _ _ => trivial⟩

theorem mapM {f : β → Following α} (hf : ∀ b, Gives Q (f b)) (bs : List β) :
    Gives (fun as => ∀ a ∈ as, Q a) (bs.mapM f) := by
  induction bs with
  | nil =>
    rw [List.mapM_nil]
    exact .pure (by simp)
  | cons b rest ih =>
    rw [List.mapM_cons]
    refine .bind (hf b) fun a ha => .bind ih fun as has => .pure ?_
    exact List.forall_mem_cons.2 ⟨ha, has⟩

end Gives

theorem isTidy_scalarValue? (n : Node Nat) : Gives IsTidy (scalarValue? n) := by
  cases n with
  | scalar p isPlain text =>
    constructor
    intro left r hr
    obtain ⟨v, hv, rfl⟩ := Option.map_eq_some_iff.1 hr
    exact .leaf (isObject_ofScalar? hv)
  | _ => exact .failure

theorem isTidy_members? {ts : Targets} {value : Node Nat → Following Json}
    (hvalue : ∀ n, Gives IsTidy (value n)) (members : List (Node Nat × Node Nat)) :
    Gives IsTidy (members? ts value members) := by
  have hmember (m : Node Nat × Node Nat) :
      Gives (fun m : String × Json => IsTidy m.2) (do return (← name? ts m.1, ← value m.2)) :=
    .bind (.any _) fun _ _ => .bind (hvalue m.2) fun _ hv => .pure hv
  refine .bind (.mapM hmember members) fun ms hms => .pure ?_
  exact IsTidy.nil.foldl_insertMember hms

theorem isTidy_value? (ts : Targets) (depth : Nat) (n : Node Nat) :
    Gives IsTidy (value? ts depth n) := by
  induction depth generalizing n with
  | zero =>
    rw [value?]
    exact .bind (.any _) fun n _ => isTidy_scalarValue? n
  | succ depth ih =>
    rw [value?]
    refine .bind (.any _) fun n _ => ?_
    cases n with
    | list p items =>
      dsimp only
      split
      · exact .bind (.any _) fun _ _ => .pure (.leaf rfl)
      · exact .failure
    | object p ms =>
      dsimp only
      split
      · exact isTidy_members? ih ms
      · exact .failure
    | _ => exact isTidy_scalarValue? _

theorem isTidy_of_document? {n : Node String} {v : Json} (h : n.document? = some v) :
    v.isObject = true ∧ IsTidy v := by
  obtain ⟨⟨ids, n⟩, -, h⟩ := Option.bind_eq_some_iff.1 h
  dsimp only at h
  split at h
  · obtain ⟨-, h⟩ := Option.ite_none_right_eq_some.1 h
    obtain rfl := Option.some.inj h
    exact ⟨rfl, .nil⟩
  · obtain ⟨r, hr, rfl⟩ := Option.map_eq_some_iff.1 h
    refine ⟨?_, (isTidy_members? (isTidy_value? _ _) _).given _ r hr⟩
    obtain ⟨ms, -, hms⟩ := Option.bind_eq_some_iff.1 hr
    obtain rfl := Option.some.inj hms
    rfl
  · cases h

end Node

theorem isTidy_of_read? {s : String} {v : Json} (h : read? s = some v) :
    v.isObject = true ∧ IsTidy v := by
  obtain ⟨tokens, -, h⟩ := Option.bind_eq_some_iff.1 h
  obtain ⟨document, -, h⟩ := Option.bind_eq_some_iff.1 h
  cases document with
  | none =>
    obtain rfl := Option.some.inj h
    exact ⟨rfl, .nil⟩
  | some n => exact Node.isTidy_of_document? h

end Yaml

/-! ## Texts of variables -/

namespace Variable

theorem isObject_bare (cs : List Char) : (bare cs).isObject = false := by
  unfold bare
  dsimp only
  split
  · rfl
  · split
    · rfl
    · split <;> rfl

theorem isObject_readItems {fuel : Nat} {before : List Json} {cs rest : List Char} {v : Json}
    (h : readItems fuel before cs = some (v, rest)) : v.isObject = false := by
  induction fuel generalizing before cs with
  | zero => simp [readItems] at h
  | succ fuel ih =>
    unfold readItems at h
    split at h
    · cases h
    · cases h
      rfl
    next hfuel _ =>
      cases hfuel
      split at h
      · exact ih h
      · cases h
        rfl
      · cases h

theorem isTidy_read (fuel : Nat) :
    (∀ {cs rest : List Char} {v : Json}, readValue fuel cs = some (v, rest) → IsTidy v) ∧
      ∀ {before : List (String × Json)} {cs rest : List Char} {v : Json},
        IsTidy (.object before) → readEntries fuel before cs = some (v, rest) → IsTidy v := by
  induction fuel with
  | zero => simp [readValue, readEntries]
  | succ fuel ih =>
    obtain ⟨ihValue, ihEntries⟩ := ih
    constructor
    · intro cs rest v h
      rw [readValue] at h
      obtain ⟨r, hread, hr⟩ := Option.map_eq_some_iff.1 h
      obtain rfl : r.1 = v := congrArg Prod.fst hr
      split at hread
      · cases hread
        exact .leaf rfl
      · cases hread
        exact .leaf rfl
      · exact ihEntries .nil hread
      · exact .leaf (isObject_readItems hread)
      · obtain ⟨_, -, rfl⟩ := Option.map_eq_some_iff.1 hread
        exact .leaf rfl
      · cases hread
        exact .leaf rfl
      · cases hread
      · cases hread
        exact .leaf (isObject_bare _)
    · intro before cs rest v hbefore h
      unfold readEntries at h
      split at h
      · cases h
      · cases h
        exact hbefore
      next hfuel _ =>
        cases hfuel
        split at h
        · cases h
        · split at h
          · split at h
            next hvalue =>
              exact ihEntries (hbefore.insertMember (ihValue hvalue)) h
            next hvalue =>
              cases h
              exact hbefore.insertMember (ihValue hvalue)
            next => cases h
          · cases h

theorem isTidy_ofText (s : String) : IsTidy (ofText s) := by
  unfold ofText
  split
  next v h => exact (isTidy_read _).1 h
  next => exact .leaf rfl

theorem isTidy_nest {v : Json} (h : IsTidy v) (names : List String) : IsTidy (nest v names) := by
  induction names with
  | nil => exact h
  | cons name rest ih =>
    rw [nest_cons]
    exact .object (by simp [Json.Ascending]) (by simpa using ih)

theorem isTidy_of_setting {mark name text : String} {v : Json}
    (h : setting mark name text = some v) : IsTidy v := by
  obtain ⟨names, -, rfl⟩ := Option.map_eq_some_iff.1 h
  exact isTidy_nest (isTidy_ofText text) names

end Variable

/-! ## Layers -/

namespace Config

theorem isTidy_toJson (c : Config) : IsTidy c.toJson := by
  have hsection {ms : List (String × Json)} (h : ∀ m ∈ ms, m.2.isObject = false) :
      IsTidy (.ofMembers ms) := .ofMembers fun m hm => .leaf (h m hm)
  have hdirectory : (Json.ofOption .text c.logging.directory).isObject = false := by
    cases c.logging.directory <;> rfl
  refine .ofMembers ?_
  simp only [List.forall_mem_cons]
  refine ⟨hsection ?_, hsection ?_, hsection ?_, hsection ?_, .leaf rfl, by simp⟩
  · simp [Json.isObject, Json.ofNat]
  · simp [Json.isObject, Json.ofNat]
  · simp [Json.isObject]
  · simpa [Json.isObject] using hdirectory

theorem isTidy_fileLayer {found : Option (Except FileFault String)} {layer : Json}
    (h : fileLayer found = some layer) : layer.isObject = true ∧ IsTidy layer := by
  unfold fileLayer at h
  split at h
  · obtain rfl := Option.some.inj h
    exact ⟨rfl, .nil⟩
  · exact Yaml.isTidy_of_read? h
  · cases h

/-- What the variables of this program set, one variable after another. -/
def settings (env : Environment) : List Json :=
  env.filterMap fun (name, text) => Variable.setting variableMark name text

theorem environmentLayer_eq (env : Environment) :
    environmentLayer env = (settings env).foldl Json.merge (.object []) := rfl

theorem isTidy_of_mem_settings {env : Environment} {setting : Json} (h : setting ∈ settings env) :
    IsTidy setting := by
  obtain ⟨⟨name, text⟩, -, h⟩ := List.mem_filterMap.1 h
  exact Variable.isTidy_of_setting h

theorem isTidy_environmentLayer (env : Environment) : IsTidy (environmentLayer env) :=
  Json.isTidy_foldl_merge .nil fun _ => isTidy_of_mem_settings

/-! ## Configurations of layers -/

/-- An accepted configuration is one without a fault, and stays as it is. -/
theorem check_eq_ok {c c' : Config} : c.check = .ok c' ↔ c.fault? = none ∧ c = c' := by
  unfold check
  cases c.fault? <;> simp

/-- A configuration that is loaded is what its layers describe, and has no fault. -/
theorem ofReadLayers_eq_ok {message : String} {layers : Option (List Json)} {c : Config} :
    ofReadLayers message layers = .ok c ↔ layers.bind ofLayers? = some c ∧ c.fault? = none := by
  unfold ofReadLayers
  cases layers.bind ofLayers? with
  | none => simp
  | some described =>
    cases hcheck : described.check with
    | error fault =>
      have hnot : ¬ (described.fault? = none ∧ described = c) := by
        rw [← check_eq_ok, hcheck]
        simp
      simp only [hcheck, reduceCtorEq, Option.some.injEq, false_iff]
      rintro ⟨rfl, hfault⟩
      exact hnot ⟨hfault, rfl⟩
    | ok checked =>
      obtain ⟨hfault, rfl⟩ := check_eq_ok.1 hcheck
      simp only [hcheck, Except.ok.injEq, Option.some.injEq]
      constructor
      · rintro rfl
        exact ⟨rfl, hfault⟩
      · exact fun h => h.1

section Loading

variable {a : FileAccess (StateM σ)} {files : σ → Files} (h : a.Reads files)
include h

theorem run_ofDirectory (env : Environment) (dir : String) (s : σ) :
    (ofDirectory a env dir).run s =
      (ofReadLayers "Failed to extract configuration from figment"
        ((fileLayer ((files s).readNearest (Path.join dir "config.yaml"))).bind fun project =>
          (fileLayer ((files s).readNearest (Path.join dir "local.yaml"))).bind fun more =>
            some [project, more, environmentLayer env]), s) := by
  rw [ofDirectory, StateT.run_bind, h.readNearest]
  show (a.readNearest (Path.join dir "local.yaml") >>= _).run s = _
  rw [StateT.run_bind, h.readNearest]
  rfl

theorem run_ofFile (path : String) (s : σ) :
    (ofFile a path).run s =
      (ofReadLayers ("Failed to load config from " ++ path)
        ((fileLayer ((files s).readNearest path)).map ([·])), s) := by
  rw [ofFile, StateT.run_bind, h.readNearest]
  rfl

end Loading

end Config

end PlanCourier

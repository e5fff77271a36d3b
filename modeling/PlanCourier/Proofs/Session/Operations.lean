import PlanCourier.Session

/-!
# Sessions over many operations

A session is changed by operations one after another: it is pointed at another service, gets packages
that were fetched, remembers documents, and takes up settings that were kept. Three things are told
apart: what moves the base URL, what brings packages, and what brings documents. No operation does
two of them, so each part of a session follows from the operations of its own kind, apart from the
packages, which do not outlive a move of the base URL.

Packages are held from the operation that brought them on, as long as no operation after it moves the
base URL. A move to the base URL that is there already is none; a move away and back again is two.

Main statements:

- `baseUrl_after`, `selection_after`: what the base URL and the documents are in the end;
- `packages_after_iff`: which packages are held in the end;
- `session_after_operations`: all of it, from a new session on.
-/

namespace PlanCourier.Session

inductive Operation where
  | setBaseUrl (url : String)
  | setPackages (l : Listing)
  | remember (domain problem : String)
  | load (settings : Settings)
  /-- Takes up what a settings file gave. -/
  | restore (kept : Except SettingsFault (Option Settings))

namespace Operation

def apply (s : Session) : Operation → Session
  | setBaseUrl url => s.setBaseUrl url
  | setPackages l => s.setPackages l
  | remember domain problem => s.remember domain problem
  | load settings => s.load settings
  | restore kept => (s.restore kept).2

/-- The base URL that the operation sets, loads or restores. -/
def url? : Operation → Option String
  | setBaseUrl url => some url
  | load settings => some settings.baseUrl
  | restore (.ok (some settings)) => some settings.baseUrl
  | _ => none

def packages? : Operation → Option Listing
  | setPackages l => some l
  | _ => none

/-- The documents that the operation brings, domain and problem. -/
def selection? : Operation → Option (String × String)
  | remember domain problem => some (domain, problem)
  | _ => none

/-- The operation moves the base URL to a different value. -/
def Moves (s : Session) (o : Operation) : Prop := (o.apply s).baseUrl ≠ s.baseUrl

end Operation

open Operation

variable {s : Session} {o : Operation} {os : List Operation} {l : Listing}

def after (s : Session) (os : List Operation) : Session := os.foldl apply s

/-- None of the operations moves the base URL. -/
def Stays (s : Session) : List Operation → Prop
  | [] => True
  | o :: rest => ¬ o.Moves s ∧ Stays (o.apply s) rest

/-! ## One operation -/

theorem baseUrl_apply (s : Session) (o : Operation) :
    (o.apply s).baseUrl = o.url?.getD s.baseUrl := by
  cases o with
  | restore kept => rcases kept with _ | _ | _ <;> rfl
  | _ => rfl

theorem lastDomain_apply (s : Session) (o : Operation) :
    (o.apply s).lastDomain = (o.selection?.map (·.1)).or s.lastDomain := by
  cases o with
  | restore kept => rcases kept with _ | _ | _ <;> rfl
  | _ => rfl

theorem lastProblem_apply (s : Session) (o : Operation) :
    (o.apply s).lastProblem = (o.selection?.map (·.2)).or s.lastProblem := by
  cases o with
  | restore kept => rcases kept with _ | _ | _ <;> rfl
  | _ => rfl

/-- An operation that brings no packages keeps them just where it does not move the base URL. -/
theorem packages_apply_iff (h : o.packages? = none) :
    (o.apply s).packages = some l ↔ s.packages = some l ∧ ¬ o.Moves s := by
  have hurl : ∀ url, (s.setBaseUrl url).packages = some l ↔
      s.packages = some l ∧ ¬ (s.setBaseUrl url).baseUrl ≠ s.baseUrl := by
    intro url
    rw [packages_setBaseUrl]
    by_cases heq : url = s.baseUrl <;> simp [setBaseUrl, heq]
  cases o with
  | setBaseUrl url => exact hurl url
  | load settings => exact hurl settings.baseUrl
  | setPackages l' => cases h
  | remember domain problem => simp [apply, remember, Moves]
  | restore kept =>
    rcases kept with _ | _ | settings
    · simp [apply, restore, Moves]
    · simp [apply, restore, Moves]
    · exact hurl settings.baseUrl

/-! ## Many operations -/

theorem after_cons (s : Session) (o : Operation) (os : List Operation) :
    s.after (o :: os) = (o.apply s).after os := rfl

theorem after_append (s : Session) (os os' : List Operation) :
    s.after (os ++ os') = (s.after os).after os' := List.foldl_append

/-- The latest value of a kind, or what there was at first. -/
theorem getLast?_filterMap_cons (f : Operation → Option α) (o : Operation) (os : List Operation) :
    ((o :: os).filterMap f).getLast? = (os.filterMap f).getLast?.or (f o) := by
  cases h : f o with
  | none => simp [List.filterMap_cons_none h]
  | some a =>
    rw [List.filterMap_cons_some h, List.getLast?_cons]
    cases (os.filterMap f).getLast? <;> rfl

theorem baseUrl_after (s : Session) (os : List Operation) :
    (s.after os).baseUrl = (os.filterMap url?).getLast?.getD s.baseUrl := by
  induction os generalizing s with
  | nil => rfl
  | cons o rest ih =>
    rw [after_cons, ih, baseUrl_apply, getLast?_filterMap_cons]
    cases (rest.filterMap url?).getLast? <;> rfl

theorem selection_after (s : Session) (os : List Operation) :
    (s.after os).lastDomain =
      ((os.filterMap selection?).getLast?.map (·.1)).or s.lastDomain ∧
    (s.after os).lastProblem =
      ((os.filterMap selection?).getLast?.map (·.2)).or s.lastProblem := by
  induction os generalizing s with
  | nil => exact ⟨rfl, rfl⟩
  | cons o rest ih =>
    rw [after_cons, (ih _).1, (ih _).2, lastDomain_apply, lastProblem_apply,
      getLast?_filterMap_cons]
    cases (rest.filterMap selection?).getLast? <;> exact ⟨rfl, rfl⟩

/-- The packages were there at first, and nothing after that brought others or moved the base URL. -/
structure Kept (s : Session) (os : List Operation) (l : Listing) : Prop where
  held : s.packages = some l
  untouched : ∀ o ∈ os, o.packages? = none
  stays : s.Stays os

/-- One of the operations brought the packages, and nothing after that brought others or moved the
base URL. -/
def Brought (s : Session) (os : List Operation) (l : Listing) : Prop :=
  ∃ before later, os = before ++ .setPackages l :: later ∧
    Kept ((s.after before).setPackages l) later l

theorem kept_cons_iff (h : o.packages? = none) :
    Kept s (o :: os) l ↔ Kept (o.apply s) os l := by
  have hone := packages_apply_iff (s := s) (l := l) h
  constructor
  · rintro ⟨hheld, huntouched, hstay, hrest⟩
    exact ⟨hone.2 ⟨hheld, hstay⟩, fun o' ho' => huntouched o' (List.mem_cons_of_mem _ ho'), hrest⟩
  · rintro ⟨hheld, huntouched, hrest⟩
    obtain ⟨hbefore, hstay⟩ := hone.1 hheld
    refine ⟨hbefore, fun o' ho' => ?_, hstay, hrest⟩
    rcases List.mem_cons.1 ho' with rfl | ho'
    · exact h
    · exact huntouched o' ho'

theorem brought_cons_iff : Brought s (o :: os) l ↔
    (o = .setPackages l ∧ Kept (s.setPackages l) os l) ∨ Brought (o.apply s) os l := by
  constructor
  · rintro ⟨before, later, heq, hkept⟩
    cases before with
    | nil =>
      obtain ⟨rfl, rfl⟩ := List.cons.inj heq
      exact .inl ⟨rfl, hkept⟩
    | cons o' before =>
      obtain ⟨rfl, rfl⟩ := List.cons.inj heq
      exact .inr ⟨before, later, rfl, hkept⟩
  · rintro (⟨rfl, hkept⟩ | ⟨before, later, rfl, hkept⟩)
    · exact ⟨[], os, rfl, hkept⟩
    · exact ⟨o :: before, later, rfl, hkept⟩

theorem packages_after_iff :
    (s.after os).packages = some l ↔ Brought s os l ∨ Kept s os l := by
  -- by induction from the first operation on, which changes what is there at first
  induction os generalizing s with
  | nil =>
    constructor
    · intro h
      exact .inr ⟨h, by simp, trivial⟩
    · rintro (⟨before, later, heq, -⟩ | hkept)
      · simp at heq
      · exact hkept.held
  | cons o rest ih =>
    rw [after_cons, ih, brought_cons_iff]
    by_cases hbrings : ∃ l', o = .setPackages l'
    · obtain ⟨l', rfl⟩ := hbrings
      have hnot : ¬ Kept s (.setPackages l' :: rest) l := by
        intro h
        have huntouched := h.untouched _ List.mem_cons_self
        cases huntouched
      have hkept : Kept ((Operation.setPackages l').apply s) rest l ↔
          Operation.setPackages l' = .setPackages l ∧ Kept (s.setPackages l) rest l := by
        constructor
        · intro h
          have hheld : some l' = some l := h.held
          obtain rfl := Option.some.inj hheld
          exact ⟨rfl, h⟩
        · rintro ⟨heq, h⟩
          obtain rfl := Operation.setPackages.inj heq
          exact h
      rw [hkept, or_iff_left hnot, or_comm]
    · have hnone : o.packages? = none := by
        cases o with
        | setPackages l' => exact absurd ⟨l', rfl⟩ hbrings
        | _ => rfl
      have hnot : ¬ (o = .setPackages l ∧ Kept (s.setPackages l) rest l) := by
        rintro ⟨heq, -⟩
        exact hbrings ⟨l, heq⟩
      rw [kept_cons_iff hnone, or_iff_right hnot]

/-- A session after any operations, in any order. Its base URL is the last one that was set, loaded or
restored, and its documents are those that were remembered last. It holds the packages that were set
last, unless an operation after that moved the base URL to a different value. A restore that finds
nothing or fails leaves the whole session as it is, and so do its own settings. -/
theorem session_after_operations (url : String) (os : List Operation) :
    let s := (fresh url).after os
    s.baseUrl = (os.filterMap url?).getLast?.getD url ∧
    s.lastDomain = (os.filterMap selection?).getLast?.map (·.1) ∧
    s.lastProblem = (os.filterMap selection?).getLast?.map (·.2) ∧
    (∀ l, s.packages = some l ↔ ∃ before later, os = before ++ .setPackages l :: later ∧
      (∀ o ∈ later, o.packages? = none) ∧
      Stays ((fresh url).after (before ++ [.setPackages l])) later) ∧
    s.restore (.ok none) = (.ok false, s) ∧
    (∀ fault, s.restore (.error fault) = (.error fault, s)) ∧
    s.load s.save = s := by
  intro s
  obtain ⟨hdomain, hproblem⟩ := selection_after (fresh url) os
  refine ⟨baseUrl_after _ os, hdomain.trans Option.or_none, hproblem.trans Option.or_none,
    fun l => ?_, rfl, fun fault => rfl, load_save s⟩
  -- a new session holds nothing, so packages that are held were brought
  have hstart : ¬ Kept (fresh url) os l := by
    intro h
    cases h.held
  rw [packages_after_iff, or_iff_left hstart]
  constructor
  · rintro ⟨before, later, heq, hkept⟩
    refine ⟨before, later, heq, hkept.untouched, ?_⟩
    rw [after_append]
    exact hkept.stays
  · rintro ⟨before, later, heq, huntouched, hstays⟩
    rw [after_append] at hstays
    exact ⟨before, later, heq, rfl, huntouched, hstays⟩

/-- A detour drops the packages, although it ends where it began. -/
example : ((fresh "http://a").after
    [.setPackages [], .setBaseUrl "http://b", .setBaseUrl "http://a"]).packages = none := by
  decide +kernel

end PlanCourier.Session

import PlanCourier.Files.Access

/-!
# What becomes of files

Making directories only adds to a tree, and so does writing a file where none was: a path that led
somewhere leads there still. Writing a file that is there changes this file alone. In either
case the file that was written holds from then on what was written.

A path may lead somewhere only once the directories on its way are made, so a tree that grows may
have files that could not be reached before; but no file that could be reached is lost or changed.

Main statements:

- `Grows.content?_eq_some`: a file that can be reached stays as it is while the tree grows;
- `grows_makeDirectories`, `grows_touch`: what a tree grows by;
- `content?_write`: what was written is what the file holds.
-/

namespace PlanCourier.Files

variable {fs after : Files} {place start : Place} {path text : String}

/-- What the file holds that a path leads to, if it leads to one. -/
def content? (fs : Files) (path : String) : Option Content :=
  match fs.entry? path with
  | .ok (.file c) => some c
  | _ => none

/-- A path is followed through directories alone, so it leads to where it did while they stay. -/
theorem follow_eq_ok {names : List String}
    (h : ∀ p, fs.look p = some .directory → after.look p = some .directory)
    (hfollow : fs.follow start names = .ok place) : after.follow start names = .ok place := by
  fun_induction follow fs start names with
  | case1 => exact hfollow
  | case2 => cases hfollow
  | case3 => cases hfollow
  | case4 => cases hfollow
  | case5 start n rest hdirectory hshort hstays ih =>
    rw [follow, h _ hdirectory]
    dsimp only
    rw [if_neg hshort, if_pos hstays]
    exact ih hfollow
  | case6 start rest hdirectory hshort hstays ih =>
    rw [follow, h _ hdirectory]
    dsimp only
    rw [if_neg hshort, if_neg hstays, if_pos rfl]
    exact ih hfollow
  | case7 start n rest hdirectory hshort hstays hup ih =>
    rw [follow, h _ hdirectory]
    dsimp only
    rw [if_neg hshort, if_neg hstays, if_neg hup]
    exact ih hfollow

theorem origin_eq_of_here (h : after.here = fs.here) (path : String) :
    after.origin path = fs.origin path := by
  unfold origin
  rw [h]

theorem locate_eq_ok : fs.locate path = .ok place ↔
    ∃ start, fs.origin path = .ok start ∧ fs.follow start (Path.parts path) = .ok place := by
  unfold locate
  cases fs.origin path <;> simp

theorem entry?_eq_ok {e : Entry} : fs.entry? path = .ok e ↔
    ∃ place, fs.locate path = .ok place ∧ fs.look place = some e := by
  unfold entry?
  cases hlocate : fs.locate path with
  | error fault => simp
  | ok place => cases hlook : fs.look place <;> simp [hlook]

theorem content?_eq_some {c : Content} :
    fs.content? path = some c ↔ fs.entry? path = .ok (.file c) := by
  unfold content?
  split
  next c' h => simp [h]
  next h =>
    simp only [reduceCtorEq, false_iff]
    exact h c

/-! ## Trees that grow -/

/-- All that stands in the one tree stands in the other one as well. -/
structure Grows (fs after : Files) : Prop where
  here : after.here = fs.here
  look : ∀ place e, fs.look place = some e → after.look place = some e

namespace Grows

theorem refl (fs : Files) : Grows fs fs := ⟨rfl, fun _ _ h => h⟩

theorem trans {last : Files} (h : Grows fs after) (h' : Grows after last) : Grows fs last :=
  ⟨h'.here.trans h.here, fun place e he => h'.look place e (h.look place e he)⟩

theorem put (h : fs.look place = none) (e : Entry) : Grows fs (fs.put place e) := by
  have hroot : place ≠ [] := by
    rintro rfl
    cases h
  refine ⟨rfl, fun other e' he' => ?_⟩
  rw [look_put hroot, if_neg, he']
  rintro rfl
  cases h.symm.trans he'

theorem locate_eq_ok (h : Grows fs after) (hlocate : fs.locate path = .ok place) :
    after.locate path = .ok place := by
  obtain ⟨start, horigin, hfollow⟩ := Files.locate_eq_ok.1 hlocate
  refine Files.locate_eq_ok.2 ⟨start, ?_, follow_eq_ok (fun p => h.look p _) hfollow⟩
  rw [origin_eq_of_here h.here, horigin]

theorem content?_eq_some (h : Grows fs after) {c : Content} (hc : fs.content? path = some c) :
    after.content? path = some c := by
  obtain ⟨place, hlocate, hlook⟩ := entry?_eq_ok.1 (Files.content?_eq_some.1 hc)
  exact Files.content?_eq_some.2 (entry?_eq_ok.2 ⟨place, h.locate_eq_ok hlocate, h.look _ _ hlook⟩)

end Grows

/-! ## Making directories -/

theorem grows_makeDirectory (h : fs.makeDirectory path = .ok after) : Grows fs after := by
  unfold makeDirectory at h
  split at h
  next => cases h
  next start _ =>
    split at h
    next => cases h
    next place _ =>
      split at h
      next => cases h
      next hnone =>
        obtain rfl := Except.ok.inj h
        exact .put hnone _

theorem grows_ensureDirectory (h : fs.ensureDirectory path = .ok after) : Grows fs after := by
  unfold ensureDirectory at h
  split at h
  next made hmade =>
    obtain rfl := Except.ok.inj h
    exact grows_makeDirectory hmade
  next =>
    split at h
    · obtain rfl := Except.ok.inj h
      exact .refl fs
    · cases h

theorem grows_makeDirectoriesWithin (fs : Files) (path : String) (depth : Nat) :
    Grows fs (fs.makeDirectoriesWithin path depth).2 := by
  -- on the way up the path: what is made above is made before what is made here
  induction depth generalizing path with
  | zero => exact .refl fs
  | succ depth ih =>
    unfold makeDirectoriesWithin
    split
    next => exact .refl fs
    next above _ =>
      have habove := ih above
      split
      next made hmade => exact grows_ensureDirectory hmade
      next =>
        split
        next fault made hmade =>
          rw [hmade] at habove
          exact habove
        next made hmade =>
          rw [hmade] at habove
          split
          next last hlast => exact habove.trans (grows_ensureDirectory hlast)
          next => exact habove
      next => exact .refl fs

theorem grows_makeDirectories (fs : Files) (path : String) :
    Grows fs (fs.makeDirectories path).2 := grows_makeDirectoriesWithin fs path _

/-! ## Writing -/

/-- A file is written where its path leads to, unless a directory is there. -/
theorem exists_put_of_write (h : fs.write path text = .ok after) :
    ∃ place, fs.locate path = .ok place ∧ fs.look place ≠ some .directory ∧
      after = fs.put place (.file (.text text)) := by
  unfold write at h
  split at h
  next => cases h
  next start horigin =>
    split at h
    · split at h <;> cases h
    · split at h
      next => cases h
      next place hfollow =>
        split at h
        next => cases h
        next hlook =>
          obtain rfl := Except.ok.inj h
          exact ⟨place, locate_eq_ok.2 ⟨start, horigin, hfollow⟩, hlook, rfl⟩

theorem content?_write (h : fs.write path text = .ok after) :
    after.content? path = some (.text text) := by
  obtain ⟨place, hlocate, hlook, rfl⟩ := exists_put_of_write h
  have hroot : place ≠ [] := by
    rintro rfl
    exact hlook rfl
  -- a file may be replaced here, so the tree need not grow; but its directories stay
  have hdirectories : ∀ p, fs.look p = some .directory →
      (fs.put place (.file (.text text))).look p = some .directory := by
    intro p hp
    rw [look_put hroot, if_neg, hp]
    rintro rfl
    exact hlook hp
  obtain ⟨start, horigin, hfollow⟩ := locate_eq_ok.1 hlocate
  have hthere : (fs.put place (.file (.text text))).locate path = .ok place :=
    locate_eq_ok.2 ⟨start, (origin_eq_of_here rfl path).trans horigin,
      follow_eq_ok hdirectories hfollow⟩
  refine content?_eq_some.2 (entry?_eq_ok.2 ⟨place, hthere, ?_⟩)
  rw [look_put hroot, if_pos rfl]

theorem grows_write (hnone : ∀ c, fs.entry? path ≠ .ok (.file c))
    (h : fs.write path text = .ok after) : Grows fs after := by
  obtain ⟨place, hlocate, hdirectory, rfl⟩ := exists_put_of_write h
  apply Grows.put
  cases hlook : fs.look place with
  | none => rfl
  | some e =>
    cases e with
    | directory => exact absurd hlook hdirectory
    | file c => exact absurd (entry?_eq_ok.2 ⟨place, hlocate, hlook⟩) (hnone c)

/-- A file that is opened for more lines is there as it was, or is new and empty. -/
theorem grows_touch (h : fs.touch path = .ok after) : Grows fs after := by
  unfold touch at h
  split at h
  next =>
    obtain rfl := Except.ok.inj h
    exact .refl fs
  next hnone => exact grows_write hnone h

end PlanCourier.Files

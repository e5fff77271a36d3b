import PlanCourier.Proofs.Files.Growth
import PlanCourier.Proofs.Text.Lines

/-!
# The directories above a file

Where a path leads to a place, the directories on its way are there, those above it among them, and
to make them again changes nothing. So a file can be written wherever a path leads to a place that
is no directory, whatever stands there.

Main statements:

- `follow_append`: a path is followed part by part;
- `makeDirectories_of_isDirectory`: a directory that is there is not made again;
- `makeDirectories_above`: so it is with the directories above a place that a path leads to;
- `exists_write_iff`: where a file can be written.
-/

namespace PlanCourier

/-! ## Paths and their parts -/

namespace Path

open PlanCourier.Text

theorem exists_of_splitOn_eq_append {mark : Char} {cs : List Char} {xs ys : List (List Char)}
    (h : cs.splitOn mark = xs ++ ys) (hxs : xs ≠ []) (hys : ys ≠ []) :
    ∃ as bs, cs = as ++ mark :: bs ∧ as.splitOn mark = xs := by
  induction xs generalizing cs with
  | nil => exact absurd rfl hxs
  | cons x xs ih =>
    cases hcut : cut mark cs with
    | none =>
      rw [List.splitOn_eq_singleton (cut_eq_none_iff.1 hcut)] at h
      obtain ⟨-, hnil⟩ := List.cons.inj h
      exact absurd (List.append_eq_nil_iff.1 hnil.symm).2 hys
    | some parts =>
      obtain ⟨first, rest⟩ := parts
      obtain ⟨rfl, hfirst⟩ := cut_eq_some_iff.1 hcut
      rw [List.splitOn_append_cons_self_of_not_mem hfirst] at h
      obtain ⟨rfl, hrest⟩ := List.cons.inj h
      cases xs with
      | nil => exact ⟨first, rest, rfl, List.splitOn_eq_singleton hfirst⟩
      | cons x' xs =>
        obtain ⟨as, bs, rfl, has⟩ := ih hrest (List.cons_ne_nil x' xs)
        refine ⟨first ++ mark :: as, bs, by simp, ?_⟩
        rw [List.splitOn_append_cons_self_of_not_mem hfirst, has]

theorem parts_eq (path : String) :
    parts path = (path.toList.splitOn '/').map String.ofList := rfl

theorem parts_ne_nil (path : String) : parts path ≠ [] := by
  rw [parts_eq]
  exact mt List.map_eq_nil_iff.1 (List.splitOn_ne_nil '/' path.toList)

theorem parts_append (above tail : String) :
    parts (above ++ "/" ++ tail) = parts above ++ parts tail := by
  have htext : (above ++ "/" ++ tail).toList = above.toList ++ '/' :: tail.toList := by simp
  rw [parts_eq, htext, List.splitOn_append_cons_self, List.map_append]
  rfl

/-- Some of the parts of a path from its start, but not all of them, are those of a path that it
goes on from. -/
theorem exists_of_parts {path : String} {names more : List String}
    (h : parts path = names ++ more) (hnames : names ≠ []) (hmore : more ≠ []) :
    ∃ tail, path = "/".intercalate names ++ "/" ++ tail := by
  have hsplit : path.toList.splitOn '/' = names.map String.toList ++ more.map String.toList := by
    rw [← List.map_append, ← h, parts_eq]
    simp
  obtain ⟨as, bs, hpath, has⟩ :=
    exists_of_splitOn_eq_append hsplit (by simpa using hnames) (by simpa using hmore)
  have hjoin : ['/'].intercalate (names.map String.toList) = as := by
    rw [← has, List.intercalate_splitOn]
  refine ⟨String.ofList bs, String.toList_inj.1 ?_⟩
  simp [String.toList_intercalate, hjoin, hpath]

theorem exists_append_dropEndWhile {α : Type} (p : α → Bool) (xs : List α) :
    ∃ ys, xs = dropEndWhile p xs ++ ys ∧ ∀ y ∈ ys, p y = true :=
  ⟨xs.rtakeWhile p, by rw [dropEndWhile_eq, List.rdropWhile_append_rtakeWhile],
    fun _ => List.mem_rtakeWhile_imp⟩

/-- A path goes on from the path above it, unless that is the root or empty. -/
theorem parent?_eq_some {path above : String} (h : parent? path = some above) :
    above = "" ∨ above = "/" ∨ ∃ tail, path = above ++ "/" ++ tail := by
  unfold parent? at h
  split at h
  next => cases h
  next first rest hparts =>
    split at h
    next hnone =>
      split at h
      next => cases h
      next => exact .inl (Option.some.inj h).symm
    next kept hkept =>
      split at h
      next => exact .inr (.inl (Option.some.inj h).symm)
      next =>
        obtain ⟨after, hafter, -⟩ := exists_append_dropEndWhile staysPut rest
        obtain ⟨between, hbetween, -⟩ :=
          exists_append_dropEndWhile staysPut (dropEndWhile staysPut rest).dropLast
        have hlast := List.dropLast_append_getLast hkept
        rw [← hlast, hbetween, List.append_assoc, List.append_assoc] at hafter
        rw [hafter, ← List.cons_append] at hparts
        rw [← Option.some.inj h]
        exact .inr (.inr (exists_of_parts hparts (List.cons_ne_nil _ _) (by simp)))

end Path

namespace Files

variable {fs : Files} {path above tail : String} {place start mid : Place}

/-! ## Paths that are followed -/

theorem follow_append (fs : Files) (start : Place) (names more : List String) :
    fs.follow start (names ++ more) =
      (fs.follow start names).bind fun mid => fs.follow mid more := by
  induction names generalizing start with
  | nil => rfl
  | cons n names ih =>
    rw [List.cons_append, follow, follow]
    cases fs.look start with
    | none => rfl
    | some e =>
      cases e with
      | file => rfl
      | directory =>
        dsimp only
        -- a name that is too long, that stays here, that leads up, or that leads on
        split
        · rfl
        · split
          · exact ih start
          · split
            · exact ih start.dropLast
            · exact ih (start ++ [n])

theorem exists_follow {names more : List String}
    (h : fs.follow start (names ++ more) = .ok place) :
    ∃ mid, fs.follow start names = .ok mid ∧ fs.follow mid more = .ok place := by
  rw [follow_append] at h
  cases hfirst : fs.follow start names with
  | error e =>
    rw [hfirst] at h
    cases h
  | ok mid =>
    rw [hfirst] at h
    exact ⟨mid, rfl, h⟩

theorem look_of_follow {names : List String} (h : fs.follow start names = .ok place)
    (hnames : names ≠ []) : fs.look start = some .directory := by
  cases names with
  | nil => exact absurd rfl hnames
  | cons n names =>
    rw [follow] at h
    split at h
    next => cases h
    next => cases h
    next hlook => exact hlook

theorem follow_empty {names : List String} (h : fs.follow start names = .ok place)
    (hnames : ∀ n ∈ names, n = "") : place = start := by
  induction names with
  | nil => exact (Except.ok.inj h).symm
  | cons n names ih =>
    obtain ⟨rfl, hmore⟩ := List.forall_mem_cons.1 hnames
    have hlook := look_of_follow h (List.cons_ne_nil _ _)
    rw [follow, hlook] at h
    exact ih h hmore

/-! ## Directories that are there -/

theorem isDirectory_iff : fs.isDirectory path = true ↔
    ∃ place, fs.locate path = .ok place ∧ fs.look place = some .directory := by
  rw [← entry?_eq_ok, isDirectory]
  split
  next h => simp [h]
  next h => simpa using h

theorem makeDirectories_of_isDirectory (h : fs.isDirectory path = true) :
    fs.makeDirectories path = (.ok (), fs) := by
  obtain ⟨place, hlocate, hlook⟩ := isDirectory_iff.1 h
  obtain ⟨start, horigin, hfollow⟩ := locate_eq_ok.1 hlocate
  have hthere : fs.makeDirectory path = .error .alreadyThere := by
    obtain ⟨slashes, hparts, hslashes⟩ :=
      Path.exists_append_dropEndWhile (· == "") (Path.parts path)
    rw [hparts] at hfollow
    obtain ⟨mid, hclosed, hopen⟩ := exists_follow hfollow
    obtain rfl := follow_empty hopen fun n hn => by simpa using hslashes n hn
    have hclosed : fs.follow start (Path.closedParts path) = .ok place := hclosed
    simp only [makeDirectory, horigin, hclosed, hlook]
  have hensure : fs.ensureDirectory path = .ok fs := by
    simp only [ensureDirectory, hthere, h, if_true]
  rw [makeDirectories, makeDirectoriesWithin]
  cases Path.parent? path with
  | none => rfl
  | some above => simp only [hensure]

theorem origin_of_append (h : fs.origin (above ++ "/" ++ tail) = .ok start) (hne : above ≠ "") :
    fs.origin above = .ok start := by
  have habsolute : Path.isAbsolute (above ++ "/" ++ tail) = Path.isAbsolute above := by
    simp only [Path.isAbsolute, String.toList_append]
    cases hcs : above.toList with
    | nil => exact absurd (String.toList_inj.1 hcs) hne
    | cons c cs => rfl
  have hempty : above.isEmpty = false := by simpa using hne
  unfold origin at h ⊢
  rw [habsolute] at h
  split at h
  next => cases h
  next hnul =>
    split at h
    next => cases h
    next hlong =>
      split at h
      next => cases h
      next =>
        rw [if_neg, if_neg, if_neg, h]
        · simp [hempty]
        · simp only [String.utf8ByteSize_append] at hlong
          omega
        · intro hmem
          apply hnul
          simp only [String.toList_append, List.contains_eq_mem, List.mem_append,
            decide_eq_true_eq] at hmem ⊢
          exact .inl (.inl hmem)

theorem isDirectory_above (hlocate : fs.locate path = .ok place)
    (h : Path.parent? path = some above) (hne : above ≠ "") : fs.isDirectory above = true := by
  obtain rfl | rfl | ⟨tail, rfl⟩ := Path.parent?_eq_some h
  · exact absurd rfl hne
  · exact isDirectory_iff.2 ⟨[], rfl, rfl⟩
  · obtain ⟨start, horigin, hfollow⟩ := locate_eq_ok.1 hlocate
    rw [Path.parts_append] at hfollow
    obtain ⟨mid, habove, hmore⟩ := exists_follow hfollow
    exact isDirectory_iff.2 ⟨mid, locate_eq_ok.2 ⟨start, origin_of_append horigin hne, habove⟩,
      look_of_follow hmore (Path.parts_ne_nil tail)⟩

theorem makeDirectories_above (hlocate : fs.locate path = .ok place) :
    fs.makeDirectories ((Path.parent? path).getD "") = (.ok (), fs) := by
  have hempty : fs.makeDirectories "" = (.ok (), fs) := rfl
  cases habove : Path.parent? path with
  | none => exact hempty
  | some above =>
    by_cases hne : above = ""
    · subst hne
      exact hempty
    · exact makeDirectories_of_isDirectory (isDirectory_above hlocate habove hne)

/-! ## Files that can be written -/

/-- The path leads to a place where no directory is, so that a file is there or can be. -/
def Admits (fs : Files) (path : String) : Prop :=
  ∃ place, fs.locate path = .ok place ∧ fs.look place ≠ some .directory

theorem admits_of_content? {c : Content} (h : fs.content? path = some c) : fs.Admits path := by
  obtain ⟨place, hlocate, hlook⟩ := entry?_eq_ok.1 (content?_eq_some.1 h)
  exact ⟨place, hlocate, by simp [hlook]⟩

/-- A path that ends in a slash leads to a directory, if it leads anywhere. -/
theorem Admits.endsOpen (h : fs.Admits path) : Path.endsOpen path = false := by
  obtain ⟨place, hlocate, hlook⟩ := h
  refine Bool.eq_false_iff.2 fun hopen => hlook ?_
  obtain ⟨cs, hcs⟩ := List.isSuffixOf_iff_suffix.1 hopen
  obtain rfl : path = String.ofList cs ++ "/" ++ "" := String.toList_inj.1 (by simp [← hcs])
  obtain ⟨start, -, hfollow⟩ := locate_eq_ok.1 hlocate
  rw [Path.parts_append] at hfollow
  obtain ⟨mid, -, hlast⟩ := exists_follow hfollow
  obtain rfl := follow_empty hlast (List.forall_mem_singleton.2 rfl)
  exact look_of_follow hlast (List.cons_ne_nil _ _)

/-- A file can be written just where the path leads to no directory, whatever is written. -/
theorem exists_write_iff {text : String} :
    (∃ after, fs.write path text = .ok after) ↔ fs.Admits path := by
  constructor
  · rintro ⟨after, hwrite⟩
    obtain ⟨place, hlocate, hlook, -⟩ := exists_put_of_write hwrite
    exact ⟨place, hlocate, hlook⟩
  · intro h
    have hopen := h.endsOpen
    obtain ⟨place, hlocate, hlook⟩ := h
    obtain ⟨start, horigin, hfollow⟩ := locate_eq_ok.1 hlocate
    refine ⟨fs.put place (.file (.text text)), ?_⟩
    rw [write, horigin]
    simp only [hopen, hfollow, Bool.false_eq_true, if_false]

end Files

end PlanCourier

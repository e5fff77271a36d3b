import Mathlib.Data.List.DropRight
import PlanCourier.Text.Blank
import PlanCourier.Text.Cut

/-!
# Lines and the white space around them

Which lines a text falls into, and what is left of a line without the white space around it, each
said without the functions that find them.

Main statements:

- `fallsInto_iff`: a text falls into its lines and in no other way;
- `exists_frame`: a line on which something shows has a core with white space around it;
- `trim_framed`: the core is what is left of the line;
- `fallsInto_joined`: such cores are the lines of the text in which they are joined again.
-/

namespace PlanCourier.Text

variable {cs l rest before core after : List Char} {ls : List (List Char)}

/-! ## Lines -/

/-- The text falls into these lines. A line ends at a line feed or at a carriage return with a line
feed after it; the last line may have no end, but then it is not empty. -/
inductive FallsInto : List Char → List (List Char) → Prop
  | nothing : FallsInto [] []
  | last {l : List Char} : l ≠ [] → '\n' ∉ l → FallsInto l [l]
  | feed {l rest : List Char} {ls : List (List Char)} : '\n' ∉ l → l.getLast? ≠ some '\r' →
      FallsInto rest ls → FallsInto (l ++ '\n' :: rest) (l :: ls)
  | returnFeed {l rest : List Char} {ls : List (List Char)} : '\n' ∉ l → FallsInto rest ls →
      FallsInto (l ++ '\r' :: '\n' :: rest) (l :: ls)

theorem dropReturn_append_return (l : List Char) : dropReturn (l ++ ['\r']) = l := by
  simp [dropReturn]

theorem dropReturn_eq_self (h : l.getLast? ≠ some '\r') : dropReturn l = l := by
  unfold dropReturn
  split
  next rest hreverse =>
    have hl : l = rest.reverse ++ ['\r'] := by
      rw [← l.reverse_reverse, hreverse, List.reverse_cons]
    simp [hl] at h
  next => rfl

theorem splitFeeds_of_not_mem (h : '\n' ∉ l) : splitFeeds l = ([], l) := by
  induction l with
  | nil => rfl
  | cons c l ih =>
    obtain ⟨hc, hl⟩ := not_or.1 (mt List.mem_cons.2 h)
    rw [splitFeeds, ih hl]
    intro hfeed
    exact hc hfeed.symm

theorem splitFeeds_feed (h : '\n' ∉ l) (rest : List Char) :
    splitFeeds (l ++ '\n' :: rest) = (l :: (splitFeeds rest).1, (splitFeeds rest).2) := by
  induction l with
  | nil => rfl
  | cons c l ih =>
    obtain ⟨hc, hl⟩ := not_or.1 (mt List.mem_cons.2 h)
    rw [List.cons_append, splitFeeds, ih hl]
    intro hfeed
    exact hc hfeed.symm

theorem lines_of_not_mem (h : '\n' ∉ l) (hne : l ≠ []) : lines l = [l] := by
  unfold lines
  rw [splitFeeds_of_not_mem h]
  cases l with
  | nil => exact absurd rfl hne
  | cons c l => rfl

theorem lines_feed (h : '\n' ∉ l) (rest : List Char) :
    lines (l ++ '\n' :: rest) = dropReturn l :: lines rest := by
  unfold lines
  rw [splitFeeds_feed h]
  rcases splitFeeds rest with ⟨ls, _ | ⟨c, last⟩⟩ <;> rfl

theorem FallsInto.eq_lines (h : FallsInto cs ls) : ls = lines cs := by
  induction h with
  | nothing => rfl
  | last hne hl => exact (lines_of_not_mem hl hne).symm
  | feed hl hlast _ ih => rw [lines_feed hl, dropReturn_eq_self hlast, ← ih]
  | @returnFeed l rest ls hl _ ih =>
    have hline : '\n' ∉ l ++ ['\r'] := by simp [hl]
    have hends : l ++ '\r' :: '\n' :: rest = (l ++ ['\r']) ++ '\n' :: rest := by simp
    rw [hends, lines_feed hline, dropReturn_append_return, ← ih]

theorem exists_fallsInto (cs : List Char) : ∃ ls, FallsInto cs ls := by
  -- by induction on the length, since what follows a line feed is shorter than the text
  induction hn : cs.length using Nat.strongRecOn generalizing cs with
  | ind n ih =>
    cases hcut : cut '\n' cs with
    | none =>
      have hfeed := cut_eq_none_iff.1 hcut
      cases cs with
      | nil => exact ⟨[], .nothing⟩
      | cons c cs => exact ⟨[c :: cs], .last (List.cons_ne_nil _ _) hfeed⟩
    | some parts =>
      obtain ⟨l, rest⟩ := parts
      obtain ⟨rfl, hl⟩ := cut_eq_some_iff.1 hcut
      rw [List.length_append, List.length_cons] at hn
      obtain ⟨ls, hrest⟩ := ih rest.length (by omega) rest rfl
      by_cases hlast : l.getLast? = some '\r'
      · obtain ⟨l, rfl⟩ := List.getLast?_eq_some_iff.1 hlast
        have hl' : '\n' ∉ l := fun h => hl (List.mem_append_left _ h)
        exact ⟨l :: ls, by simpa using FallsInto.returnFeed hl' hrest⟩
      · exact ⟨l :: ls, .feed hl hlast hrest⟩

/-- A text falls into its lines, and in no other way. -/
theorem fallsInto_iff : FallsInto cs ls ↔ ls = lines cs := by
  constructor
  · exact FallsInto.eq_lines
  · rintro rfl
    obtain ⟨ls, h⟩ := exists_fallsInto cs
    exact h.eq_lines ▸ h

theorem FallsInto.not_mem (h : FallsInto cs ls) (hl : l ∈ ls) : '\n' ∉ l := by
  induction h with
  | nothing => cases hl
  | last _ hline => exact List.mem_singleton.1 hl ▸ hline
  | feed hline _ _ ih => exact (List.mem_cons.1 hl).elim (fun h => h ▸ hline) ih
  | returnFeed hline _ ih => exact (List.mem_cons.1 hl).elim (fun h => h ▸ hline) ih

/-! ## White space around a line -/

/-- The text has something in it and no white space around it. -/
structure IsTight (cs : List Char) : Prop where
  ne_nil : cs ≠ []
  first : ∀ c, cs.head? = some c → isBlank c = false
  last : ∀ c, cs.getLast? = some c → isBlank c = false

theorem dropEndWhile_eq {α : Type} (p : α → Bool) (xs : List α) :
    dropEndWhile p xs = xs.rdropWhile p := rfl

theorem isTight_dropEndWhile {c : Char} (h : isBlank c = false) (cs : List Char) :
    IsTight (dropEndWhile isBlank (c :: cs)) := by
  have hcore : dropEndWhile isBlank (c :: cs) = c :: dropEndWhile isBlank cs :=
    dropEndWhile_append_cons [] cs h
  have hne : dropEndWhile isBlank (c :: cs) ≠ [] := by simp [hcore]
  refine ⟨hne, fun d hd => ?_, fun d hd => ?_⟩
  · rw [hcore] at hd
    exact Option.some.inj hd ▸ h
  · have hlast := List.rdropWhile_last_not isBlank (c :: cs) hne
    rw [List.getLast?_eq_some_getLast hne] at hd
    rw [← Option.some.inj hd]
    exact Bool.of_not_eq_true hlast

/-- A line on which something shows is its core and the white space around that. -/
theorem exists_frame (h : allBlank cs = false) : ∃ before core after,
    cs = before ++ (core ++ after) ∧ allBlank before = true ∧ allBlank after = true ∧
      IsTight core := by
  have hstart := cs.takeWhile_append_dropWhile (p := isBlank)
  have hfirst := List.head?_dropWhile_not isBlank cs
  cases hshown : cs.dropWhile isBlank with
  | nil =>
    have hblank := List.all_eq_true.2 (List.dropWhile_eq_nil_iff.1 hshown)
    exact absurd (h.symm.trans hblank) Bool.false_ne_true
  | cons c rest =>
    rw [hshown] at hstart hfirst
    refine ⟨cs.takeWhile isBlank, dropEndWhile isBlank (c :: rest), (c :: rest).rtakeWhile isBlank,
      ?_, ?_, ?_, isTight_dropEndWhile hfirst rest⟩
    · rw [dropEndWhile_eq, List.rdropWhile_append_rtakeWhile, hstart]
    · exact List.all_eq_true.2 fun _ => List.mem_takeWhile_imp
    · exact List.all_eq_true.2 fun _ => List.mem_rtakeWhile_imp

theorem dropWhile_of_head {p : Char → Bool} (h : ∀ c, cs.head? = some c → p c = false) :
    cs.dropWhile p = cs := by
  cases cs with
  | nil => rfl
  | cons c cs => simp [h c rfl]

theorem trim_framed (hbefore : allBlank before = true) (hafter : allBlank after = true)
    (hcore : IsTight core) : trim (before ++ (core ++ after)) = core := by
  have hstart : trimStart (before ++ (core ++ after)) = core ++ after := by
    rw [trimStart, List.dropWhile_append_of_pos (List.all_eq_true.1 hbefore)]
    apply dropWhile_of_head
    intro c hc
    cases hcs : core with
    | nil => exact absurd hcs hcore.ne_nil
    | cons d ds =>
      rw [hcs] at hc
      exact hcore.first c (by rw [hcs]; exact hc)
  have hreverse : after.reverse.all isBlank = true := by rw [List.all_reverse]; exact hafter
  rw [trim, hstart, trimEnd, dropEndWhile, List.reverse_append,
    List.dropWhile_append_of_pos (List.all_eq_true.1 hreverse), dropWhile_of_head,
    List.reverse_reverse]
  intro c hc
  exact hcore.last c (by rw [← List.head?_reverse]; exact hc)

theorem IsTight.trim_eq (h : IsTight cs) : trim cs = cs := by
  have hnone : allBlank [] = true := rfl
  simpa using trim_framed hnone hnone h

theorem IsTight.allBlank_eq (h : IsTight cs) : allBlank cs = false := by
  cases cs with
  | nil => exact absurd rfl h.ne_nil
  | cons c cs => simp [allBlank, h.first c rfl]

theorem isEmpty_trim (cs : List Char) : (trim cs).isEmpty = allBlank cs := by
  cases h : allBlank cs with
  | true =>
    have hnil : cs.dropWhile isBlank = [] := List.dropWhile_eq_nil_iff.2 (List.all_eq_true.1 h)
    rw [trim, trimStart, hnil]
    rfl
  | false =>
    obtain ⟨before, core, after, rfl, hbefore, hafter, hcore⟩ := exists_frame h
    rw [trim_framed hbefore hafter hcore]
    simpa using hcore.ne_nil

/-! ## Lines that are joined again -/

theorem IsTight.ne_return (h : IsTight l) : l.getLast? ≠ some '\r' := by
  intro hlast
  have hblank := h.last '\r' hlast
  revert hblank
  decide

inductive IsLineEnd : List Char → Prop
  | feed : IsLineEnd ['\n']
  | returnFeed : IsLineEnd ['\r', '\n']

theorem FallsInto.ended {ending : List Char} (h : FallsInto rest ls) (hending : IsLineEnd ending)
    (hl : IsTight l) (hfeed : '\n' ∉ l) : FallsInto (l ++ ending ++ rest) (l :: ls) := by
  rw [List.append_assoc]
  cases hending with
  | feed => exact .feed hfeed hl.ne_return h
  | returnFeed => exact .returnFeed hfeed h

/-- Lines without white space around them are the lines of the text in which they are joined. -/
theorem fallsInto_joined {ending : List Char} (hending : IsLineEnd ending)
    (h : ∀ l ∈ ls, IsTight l ∧ '\n' ∉ l) : FallsInto (ending.intercalate ls) ls := by
  induction ls with
  | nil => exact .nothing
  | cons l rest ih =>
    obtain ⟨⟨hl, hfeed⟩, hrest⟩ := List.forall_mem_cons.1 h
    cases rest with
    | nil => simpa [List.intercalate] using FallsInto.last hl.ne_nil hfeed
    | cons m rest =>
      rw [List.intercalate_cons_cons]
      exact (ih hrest).ended hending hl hfeed

end PlanCourier.Text

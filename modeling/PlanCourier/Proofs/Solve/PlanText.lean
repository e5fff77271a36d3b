import Mathlib.Data.List.Forall2
import PlanCourier.Proofs.Text.Lines
import PlanCourier.Solve.Plan

/-!
# Plans that are texts

A plan may come as a text with a step on each line. Lines without anything on them count for
nothing, and the white space around a name is no part of it. What is left has a single form: the
names, one on each line, are read as the same plan again.

Main statements:

- `Step.isNamedBy_iff`: the step of a line is the one with the line's core as its name;
- `textSteps_of_fallsInto`: the names in a text with these lines;
- `textSteps_joined`: names that are joined by line ends are read again;
- `plan_of_lines`: the plan of any text.
-/

namespace PlanCourier

open PlanCourier.Text

/-- The step has the name that stands on the line, without the white space around it, and nothing
else is known of it. -/
structure Step.IsNamedBy (s : Step) (line : List Char) : Prop where
  framed : ∃ before after, line = before ++ (s.name.toList ++ after) ∧
    allBlank before = true ∧ allBlank after = true
  tight : IsTight s.name.toList
  action : s.action = none

theorem Step.isNamedBy_iff {s : Step} {line : List Char} (h : allBlank line = false) :
    s.IsNamedBy line ↔ s = named (String.ofList (trim line)) := by
  constructor
  · rintro ⟨⟨before, after, rfl, hbefore, hafter⟩, htight, haction⟩
    rw [trim_framed hbefore hafter htight, String.ofList_toList]
    cases s
    exact congrArg (Step.mk _) haction
  · rintro rfl
    obtain ⟨before, core, after, rfl, hbefore, hafter, htight⟩ := exists_frame h
    rw [trim_framed hbefore hafter htight]
    have hname : (named (String.ofList core)).name.toList = core := String.toList_ofList
    exact ⟨⟨before, after, by rw [hname], hbefore, hafter⟩, hname.symm ▸ htight, rfl⟩

namespace Plan

variable {ls : List (List Char)} {t : String} {names : List String}

/-- The lines of a plan text that name a step. -/
def naming (ls : List (List Char)) : List (List Char) := ls.filter (!allBlank ·)

theorem textSteps_of_fallsInto (h : FallsInto t.toList ls) :
    textSteps t = (naming ls).map fun line => String.ofList (trim line) := by
  have hblank : (fun line => !(trim line).isEmpty) = (!allBlank ·) := by
    funext line
    rw [isEmpty_trim]
  rw [textSteps, ← h.eq_lines, List.filter_map, List.map_map]
  exact congrArg (fun p => (ls.filter p).map fun line => String.ofList (trim line)) hblank

theorem isNamedBy_textSteps (h : FallsInto t.toList ls) :
    List.Forall₂ Step.IsNamedBy ((textSteps t).map Step.named) (naming ls) := by
  rw [textSteps_of_fallsInto h, List.map_map, List.forall₂_map_left_iff, List.forall₂_same]
  intro line hline
  have hshown : allBlank line = false := by simpa using (List.mem_filter.1 hline).2
  exact (Step.isNamedBy_iff hshown).2 rfl

theorem isTight_of_mem_textSteps {name : String} (h : name ∈ textSteps t) :
    IsTight name.toList ∧ '\n' ∉ name.toList := by
  obtain ⟨ls, hls⟩ := exists_fallsInto t.toList
  rw [textSteps_of_fallsInto hls] at h
  obtain ⟨line, hline, rfl⟩ := List.mem_map.1 h
  obtain ⟨hmem, hshown⟩ := List.mem_filter.1 hline
  obtain ⟨before, core, after, rfl, hbefore, hafter, htight⟩ :=
    exists_frame (by simpa using hshown)
  rw [trim_framed hbefore hafter htight, String.toList_ofList]
  refine ⟨htight, fun hfeed => hls.not_mem hmem ?_⟩
  simp [hfeed]

/-- Names without white space around them are read again from the text in which they are joined. -/
theorem textSteps_joined {ending : String} (hending : IsLineEnd ending.toList)
    (h : ∀ name ∈ names, IsTight name.toList ∧ '\n' ∉ name.toList) :
    textSteps (ending.intercalate names) = names := by
  have hlines : FallsInto (ending.intercalate names).toList (names.map String.toList) := by
    rw [String.toList_intercalate]
    exact fallsInto_joined hending (List.forall_mem_map.2 h)
  have hnaming : naming (names.map String.toList) = names.map String.toList := by
    refine List.filter_eq_self.2 (List.forall_mem_map.2 fun name hname => ?_)
    rw [(h name hname).1.allBlank_eq]
    rfl
  rw [textSteps_of_fallsInto hlines, hnaming, List.map_map]
  refine (List.map_congr_left fun name hname => ?_).trans (List.map_id names)
  simp [(h name hname).1.trim_eq]

theorem names_ofNames (names : List String) : (ofNames names).names = names := by
  simp [ofNames, Plan.names, Step.named, Function.comp_def]

/-- The plan of a text. The text falls into lines in one way, and each line on which something shows
names a step, in their order; nothing but the names is known. A name is not empty, goes over no line
end and has no white space around it. The text of the names alone, one on each line, is read as the
same plan, whichever way its lines end. -/
theorem plan_of_lines (t : String) : ∃ p, ofJson (.text t) = p ∧
    (∃ ls, (∀ ls', FallsInto t.toList ls' ↔ ls' = ls) ∧
      List.Forall₂ Step.IsNamedBy p.steps (naming ls)) ∧
    p.full = false ∧ p.output = none ∧
    (∀ name ∈ p.names, IsTight name.toList ∧ '\n' ∉ name.toList) ∧
    ∀ ending : String, IsLineEnd ending.toList →
      ofJson (.text (ending.intercalate p.names)) = p := by
  let p := ofJson (.text t)
  have hnames : p.names = textSteps t := names_ofNames _
  have htight : ∀ name ∈ p.names, IsTight name.toList ∧ '\n' ∉ name.toList := by
    rw [hnames]
    exact fun name => isTight_of_mem_textSteps
  refine ⟨p, rfl, ⟨lines t.toList, fun ls' => fallsInto_iff, ?_⟩, rfl, rfl, htight,
    fun ending hending => ?_⟩
  · exact isNamedBy_textSteps (fallsInto_iff.2 rfl)
  · have hread := textSteps_joined hending htight
    calc ofJson (.text (ending.intercalate p.names))
        = ofNames (textSteps (ending.intercalate p.names)) := rfl
      _ = ofNames (textSteps t) := by rw [hread, hnames]
      _ = p := rfl

/-- A text with lines that end in both ways, blank ones among them, and white space of several
kinds. -/
theorem plan_of_untidy_lines :
    let p := ofJson (.text "\u3000board a\r\n\t\r\n\nsail\ta \r b\n")
    p.names = ["board a", "sail\ta \r b"] ∧ "sail\ta \r b" ∈ p.names ∧
      IsTight "sail\ta \r b".toList ∧
      IsLineEnd "\r\n".toList ∧ ofJson (.text "board a\r\nsail\ta \r b") = p := by
  intro p
  have hnames : p.names = ["board a", "sail\ta \r b"] := by decide
  obtain ⟨_, rfl, -, -, -, htight, hagain⟩ := plan_of_lines "\u3000board a\r\n\t\r\n\nsail\ta \r b\n"
  have hmem : "sail\ta \r b" ∈ p.names := by simp [hnames]
  have hread := hagain "\r\n" .returnFeed
  change ofJson (.text ("\r\n".intercalate p.names)) = p at hread
  rw [hnames] at hread
  exact ⟨hnames, hmem, (htight _ hmem).1, .returnFeed, hread⟩

end Plan

end PlanCourier

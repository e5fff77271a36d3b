import PlanCourier.Proofs.Files.Above
import PlanCourier.Proofs.Settings.Kept

/-!
# Settings that are read back

Settings that were saved are loaded again as they were, whatever their text and whatever the file
held before. A file of the older form, where the field has another name, is loaded as the same
settings; one in which the field has both names is refused.

Main statements:

- `save_eq_ok_iff`: where settings can be saved;
- `settings_read_back`: what is loaded from a file that was saved, and from one with the old name.
-/

namespace PlanCourier

open Json (Quotes IsObjectOf)

namespace Settings

theorem run_load (wording path : String) (w : World) :
    (load wording World.host.files path).run w = (ofRead wording path (w.files.read path), w) := rfl

theorem run_load_of_content? {wording path text : String} {w : World}
    (h : w.files.content? path = some (.text text)) :
    (load wording World.host.files path).run w =
      (match ofText text with
        | .ok s => .ok (some s)
        | .error e => .error (.format path (e.message wording)), w) := by
  have hentry := Files.content?_eq_some.1 h
  rw [run_load, Files.read, hentry]
  rfl

theorem fst_run_write {path text : String} {w : World} :
    ((World.host.files.write path text).run w).1 = .ok () ↔ w.files.Admits path := by
  rw [← @Files.exists_write_iff w.files path text]
  obtain ⟨written, hwrite, hrun⟩ | ⟨e, hwrite, hrun⟩ := World.run_write path text w
  · simp [hrun, hwrite]
  · simp [hrun, hwrite]

/-- Settings are saved just where the directories above the file can be made and no directory is at
its place then. -/
theorem save_eq_ok_iff {s : Settings} {path : String} {w : World} :
    ((s.save World.host.files path).run w).1 = .ok () ↔ ∃ made,
      w.files.makeDirectories ((Path.parent? path).getD "") = (.ok (), made) ∧
        made.Admits path := by
  have hmake (above : String) : (World.host.files.makeDirectories above).run w =
      ((w.files.makeDirectories above).1,
        { w with files := (w.files.makeDirectories above).2 }) := rfl
  rw [save, StateT.run_bind, hmake]
  rcases w.files.makeDirectories ((Path.parent? path).getD "") with ⟨tried, made⟩
  cases tried with
  | error e =>
    constructor
    · intro h
      cases h
    · rintro ⟨made', heq, -⟩
      cases (Prod.mk.inj heq).1
  | ok =>
    have hwrite := @fst_run_write path s.fileText { w with files := made }
    change ((World.host.files.write path s.fileText >>= _).run { w with files := made }).1 = _ ↔ _
    rw [StateT.run_bind]
    generalize (World.host.files.write path s.fileText).run { w with files := made } = written
      at hwrite ⊢
    obtain ⟨tried, after⟩ := written
    cases tried with
    | error e =>
      constructor
      · intro h
        cases h
      · rintro ⟨_, heq, hadmits⟩
        obtain rfl := (Prod.mk.inj heq).2
        cases hwrite.2 hadmits
    | ok => exact ⟨fun _ => ⟨made, rfl, hwrite.1 rfl⟩, fun _ => rfl⟩

/-- Settings that are saved are loaded again, whatever the base URL is and whatever the file held.
They are saved just where the directories above the file can be made and no directory is at its
place then; so they are wherever a file is already, or can be put without making directories.

A file that holds a text under the old name of the field alone is loaded as the settings with this
text, whatever else the object holds and however the text is spelled there. One that holds both
names is refused for its form. -/
theorem settings_read_back (s : Settings) (wording path : String) (w : World) :
    let saved := (s.save World.host.files path).run w
    (saved.1 = .ok () ↔ ∃ made,
      w.files.makeDirectories ((Path.parent? path).getD "") = (.ok (), made) ∧
        made.Admits path) ∧
    (w.files.Admits path → saved.1 = .ok ()) ∧
    (saved.1 = .ok () →
      (load wording World.host.files path).run saved.2 = (.ok (some s), saved.2)) ∧
    ∀ text members, w.files.content? path = some (.text text) →
      IsObjectOf members text.toList →
      let loaded := (load wording World.host.files path).run w
      (∀ value, named members = [("PASURL", value)] → Quotes value s.baseUrl →
        loaded = (.ok (some s), w)) ∧
      ("base_url" ∈ members.map Prod.fst → "PASURL" ∈ members.map Prod.fst →
        ∃ reason, loaded = (.error (.format path reason), w)) := by
  intro saved
  have hsaved : saved.1 = .ok () ↔ ∃ made,
      w.files.makeDirectories ((Path.parent? path).getD "") = (.ok (), made) ∧
        made.Admits path := save_eq_ok_iff
  refine ⟨hsaved, fun hadmits => ?_, fun hok => ?_, fun text members hcontent hobject => ?_⟩
  · obtain ⟨place, hlocate, -⟩ := id hadmits
    exact hsaved.2 ⟨w.files, Files.makeDirectories_above hlocate, hadmits⟩
  · rw [run_load_of_content? (content?_save hok), ofText_fileText]
  · have hread := readsAs_ofText hobject
    intro loaded
    have hloaded : loaded = _ := run_load_of_content? hcontent
    refine ⟨fun value hnamed hvalue => ?_, fun hname hold => ?_⟩
    · rw [hloaded, hread.eq_ok_iff.2 ⟨_, hnamed, hvalue⟩]
    · have htwo := two_le_length_named (by decide) (by decide) (by decide) hname hold
      cases hresult : ofText text with
      | error e => exact ⟨_, by rw [hloaded, hresult]⟩
      | ok read =>
        obtain ⟨m, hsingle, -⟩ := hread.eq_ok_iff.1 hresult
        rw [hsingle] at htwo
        simp at htwo

/-- A base URL with what has to be escaped, over a file that is no text; the same under the old
name; and an object with both names. -/
theorem settings_over_each_file :
    let s : Settings := ⟨"http://ä\"\\\x01\n"⟩
    let path := "settings.json"
    let holding (c : Content) : World := .fresh ⟨[([path], .file c)], []⟩ .silent ⟨0⟩
    let old := (Json.object [("PASURL", .text s.baseUrl)]).compactText
    let both := (Json.object [("base_url", .text "a"), ("PASURL", .text "b")]).compactText
    let saved := (s.save World.host.files path).run (holding .bytes)
    let loaded (w : World) := ((load "no JSON" World.host.files path).run w).1
    (holding .bytes).files.Admits path ∧ saved.1 = .ok () ∧ loaded saved.2 = .ok (some s) ∧
      loaded (holding (.text old)) = .ok (some s) ∧
      ∃ reason, loaded (holding (.text both)) = .error (.format path reason) := by
  intro s path holding old both saved loaded
  have hcontent (c : Content) :
      Files.content? ⟨[(["settings.json"], .file c)], []⟩ "settings.json" = some c := rfl
  have hobject (ms : List (String × Json)) : IsObjectOf (ms.map fun m => (m.1, Json.compact m.2))
      (Json.object ms).compactText.toList := by
    rw [Json.compactText, String.toList_ofList]
    exact Json.isObjectOf_compact ms
  have hadmits : (holding .bytes).files.Admits path := Files.admits_of_content? (hcontent .bytes)
  obtain ⟨-, hsave, hload, -⟩ := settings_read_back s "no JSON" path (holding .bytes)
  have hok : saved.1 = .ok () := hsave hadmits
  have hold := (settings_read_back s "no JSON" path (holding (.text old))).2.2.2 old _ (hcontent _)
    (hobject _)
  have hboth := (settings_read_back s "no JSON" path (holding (.text both))).2.2.2 both _
    (hcontent _) (hobject _)
  obtain ⟨reason, hreason⟩ := hboth.2 (by simp) (by simp)
  exact ⟨hadmits, hok, congrArg Prod.fst (hload hok),
    congrArg Prod.fst (hold.1 _ rfl (Json.quotes_printString s.baseUrl)), reason,
    congrArg Prod.fst hreason⟩

end Settings

end PlanCourier

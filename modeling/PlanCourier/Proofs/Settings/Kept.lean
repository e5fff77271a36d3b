import PlanCourier.Proofs.Files.Growth
import PlanCourier.Proofs.Settings.Members
import PlanCourier.Session
import PlanCourier.World

/-!
# Settings that are kept

A settings file is written in one form and read in many. What is written is read back, whatever the
base URL holds; and the session of a run begins with the address that is named for the run, else
with what the file holds if that can be read, else with what is configured.

Main statements:

- `ofText_fileText`: the file of settings is read as these settings;
- `content?_save`: settings that are saved are what the file holds;
- `Session.start_ofRead`: what the session of a run begins with.
-/

namespace PlanCourier

theorem World.run_write (path text : String) (w : World) :
    (∃ written, w.files.write path text = .ok written ∧
      (host.files.write path text).run w = (.ok (), { w with files := written })) ∨
    ∃ e, w.files.write path text = .error e ∧
      (host.files.write path text).run w = (.error e, w) := by
  have hrun : (host.files.write path text).run w =
      let (tried, files) := Files.attempt (·.write path text) w.files
      (tried, { w with files }) := rfl
  rw [hrun, Files.attempt]
  cases hwrite : w.files.write path text with
  | ok written => exact .inl ⟨written, rfl, rfl⟩
  | error e => exact .inr ⟨e, rfl, rfl⟩

namespace Settings

/-- The settings in what a file holds, if they can be read there. -/
def inContent? : Option Content → Option Settings
  | some (.text s) => (ofText s).toOption
  | _ => none

/-- The file of settings is an object whose only member is the base URL. -/
theorem isObjectOf_fileText (s : Settings) :
    Json.IsObjectOf [("base_url", Json.printString s.baseUrl)] s.fileText.toList := by
  have hmember := Json.IsMember.parts (Json.isBlanks_newLine 1)
    (Json.quotes_printString "base_url") Json.isBlanks_nil Json.isBlanks_space
    (.string (Json.isString_printString s.baseUrl)) (Json.isBlanks_newLine 0)
  have hobject := Json.IsObjectOf.members Json.isBlanks_nil (.last hmember) Json.isBlanks_nil
  rw [fileText, toJson, Json.prettyText, String.toList_ofList]
  simpa [Json.pretty, Json.prettyAt, Json.prettyMembers] using hobject

theorem ofText_fileText (s : Settings) : ofText s.fileText = .ok s :=
  (readsAs_ofText (isObjectOf_fileText s)).eq_ok_iff.2
    ⟨_, rfl, Json.quotes_printString s.baseUrl⟩

theorem inContent?_fileText (s : Settings) : inContent? (some (.text s.fileText)) = some s := by
  rw [inContent?, ofText_fileText]
  rfl

/-! ## Saving -/

theorem content?_save {s : Settings} {path : String} {w : World}
    (h : ((s.save World.host.files path).run w).1 = .ok ()) :
    ((s.save World.host.files path).run w).2.files.content? path = some (.text s.fileText) := by
  rcases hmade : (World.host.files.makeDirectories ((Path.parent? path).getD "")).run w with
    ⟨tried, made⟩
  unfold save at h ⊢
  rw [StateT.run_bind, hmade] at h ⊢
  cases tried with
  | error e => cases h
  | ok =>
    change ((World.host.files.write path s.fileText >>= _).run made).1 = _ at h
    change ((World.host.files.write path s.fileText >>= _).run made).2.files.content? path = _
    rw [StateT.run_bind] at h ⊢
    obtain ⟨written, hwrite, hrun⟩ | ⟨e, -, hrun⟩ := World.run_write path s.fileText made
    · rw [hrun]
      exact Files.content?_write hwrite
    · rw [hrun] at h
      cases h

end Settings

/-! ## Sessions -/

namespace Session

theorem setBaseUrl_fresh (url other : String) : (fresh url).setBaseUrl other = fresh other := by
  unfold setBaseUrl fresh
  split <;> rfl

/-- A session begins with the address that is named, else with the one that is kept in the file,
else with the configured one. -/
theorem start_ofRead (configured wording path : String) (fs : Files) (named : Option String) :
    start configured (Settings.ofRead wording path (fs.read path)) named =
      fresh (named.getD (((Settings.inContent? (fs.content? path)).map (·.baseUrl)).getD
        configured)) := by
  have hkept : ((fresh configured).restore (Settings.ofRead wording path (fs.read path))).2 =
      fresh (((Settings.inContent? (fs.content? path)).map (·.baseUrl)).getD configured) := by
    unfold Files.read Files.content?
    cases fs.entry? path with
    | error fault => cases fault <;> rfl
    | ok e =>
      cases e with
      | directory => rfl
      | file content =>
        cases content with
        | bytes => rfl
        | text s =>
          dsimp only [Settings.ofRead, Settings.inContent?]
          cases Settings.ofText s with
          | error fault => rfl
          | ok settings => exact setBaseUrl_fresh configured settings.baseUrl
  unfold start
  rw [hkept]
  cases named with
  | none => rfl
  | some url => exact setBaseUrl_fresh _ url

end Session

end PlanCourier

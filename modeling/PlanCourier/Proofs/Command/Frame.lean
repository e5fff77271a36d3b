import PlanCourier.Program
import PlanCourier.World

/-!
# What an action leaves as it is

`Keeps view x` says that the action `x`, on a host that is a state, leaves what `view` gives of this
state as it is. The parts of a run that only read files keep every view, and those that change files
alone keep every view that does not look at files.

Main statements:

- `Keeps.bind`: an action after another one;
- `Keeps.loadConfig` and its companions: what only reads files;
- `Keeps.startLog`, `Keeps.saveSettings`: what changes files alone.
-/

namespace PlanCourier.World

/-- The action leaves this view of the world as it is. -/
structure Keeps (view : World → β) (x : StateM World α) : Prop where
  kept : ∀ w, view (x.run w).2 = view w

/-- The view does not look at files. -/
def IgnoresFiles (view : World → β) : Prop := ∀ w files, view { w with files } = view w

/-- The view does not look at what was written. -/
def IgnoresLines (view : World → β) : Prop :=
  ∀ w output messages, view { w with output, messages } = view w

namespace Keeps

variable {view : World → β}

theorem pure (a : α) : Keeps view (pure a) := ⟨fun _ => rfl⟩

theorem bind {x : StateM World α} {f : α → StateM World γ} (hx : Keeps view x)
    (hf : ∀ a, Keeps view (f a)) : Keeps view (x >>= f) := by
  constructor
  intro w
  have h : (x >>= f).run w = (f (x.run w).1).run (x.run w).2 := rfl
  rw [h, (hf _).kept, hx.kept]

theorem writeAll {write : String → StateM World Unit} (h : ∀ line, Keeps view (write line))
    (lines : List String) : Keeps view (Conclusion.writeAll write lines) := by
  induction lines with
  | nil => exact pure ()
  | cons line rest ih => exact (h line).bind fun _ => ih

theorem now : Keeps view host.now := ⟨fun _ => rfl⟩

theorem tell (hview : IgnoresLines view) (json : Bool) (n : Notice) :
    Keeps view (SolveOrder.tell host json n) :=
  (writeAll (fun _ => ⟨fun w => hview w _ _⟩) _).bind fun _ =>
    writeAll (fun _ => ⟨fun w => hview w _ _⟩) _

theorem print (hview : IgnoresLines view) (c : Conclusion) (json : Bool) :
    Keeps view (c.print host json) :=
  (writeAll (fun _ => ⟨fun w => hview w _ _⟩) _).bind fun _ =>
    (writeAll (fun _ => ⟨fun w => hview w _ _⟩) _).bind fun _ => pure _

theorem abort (hview : IgnoresLines view) (reason : String) : Keeps view (host.abort reason) :=
  ⟨fun w => hview w _ _⟩

/-! ## Files that are read -/

theorem readFile (path : String) : Keeps view (host.files.read path) := ⟨fun _ => rfl⟩

theorem firstFile (paths : List String) : Keeps view (host.files.firstFile paths) := by
  induction paths with
  | nil => exact pure none
  | cons path rest ih =>
    refine bind ⟨fun _ => rfl⟩ fun found => ?_
    split
    · exact pure _
    · exact ih

theorem nearestFile (path : String) : Keeps view (host.files.nearest path) := by
  unfold FileAccess.nearest
  split
  · exact firstFile _
  · refine bind ⟨fun _ => rfl⟩ fun here => ?_
    split
    · exact pure none
    · exact firstFile _

theorem readNearest (path : String) : Keeps view (host.files.readNearest path) := by
  refine (nearestFile path).bind fun found => ?_
  split
  · exact pure none
  · exact (readFile _).bind fun _ => pure _

theorem loadConfig (env : Environment) (i : Invocation) : Keeps view (i.loadConfig host env) := by
  unfold Invocation.loadConfig
  split
  · exact (readNearest _).bind fun _ => pure _
  · exact (readNearest _).bind fun _ => (readNearest _).bind fun _ => pure _

theorem loadSettings (wording path : String) :
    Keeps view (Settings.load wording host.files path) :=
  (readFile _).bind fun _ => pure _

theorem loadDocuments (base : String) (ids : List String) :
    Keeps view (Document.load (Document.read host.files base) ids) := by
  induction ids with
  | nil => exact pure _
  | cons id rest ih =>
    refine bind ((readFile _).bind fun _ => pure _) fun text => ?_
    split
    · exact pure _
    · exact ih.bind fun _ => pure _

/-! ## Files that are changed -/

variable (hview : IgnoresFiles view)
include hview

theorem onFiles (x : StateM Files α) : Keeps view (onFiles x) := ⟨fun w => hview w _⟩

theorem openLog (path : String) : Keeps view (LogFile.openAt host.files path) := by
  refine (onFiles hview _).bind fun touched => ?_
  split
  · exact pure _
  · refine (onFiles hview _).bind fun made => ?_
    split
    · exact pure _
    · exact (onFiles hview _).bind fun _ => pure _

theorem startLog (s : LoggingSection) (now : Moment) :
    Keeps view (LogFile.start host.files s now) := by
  unfold LogFile.start
  split
  · exact pure _
  · exact openLog hview _

theorem saveSettings (s : Settings) (path : String) : Keeps view (s.save host.files path) := by
  refine (onFiles hview _).bind fun made => ?_
  split
  · exact pure _
  · refine (onFiles hview _).bind fun written => ?_
    split <;> exact pure _

end Keeps

end PlanCourier.World

import PlanCourier.Files

/-!
# Access to files

What a run may do with files, whatever they are kept in: a run is written once for any access, and
used with real files as with a tree of files that is a state.

Main statements:

- `Reads.readNearest`: what is looked for upwards is the first of the candidates that is a file;
- `Files.readNearest_of_isAbsolute`: an absolute path is not looked for any further up.
-/

namespace PlanCourier

/-- What a run may do with files. -/
structure FileAccess (m : Type → Type) where
  /-- The directory that relative paths start from, if it is known. -/
  here : m (Option String)
  /-- Whether a path leads to a file. -/
  isFile : (path : String) → m Bool
  /-- The text of the file that a path leads to. -/
  read : (path : String) → m (Except FileFault String)
  /-- Makes a directory and those above it, as far as they are not there. -/
  makeDirectories : (path : String) → m (Except FileFault Unit)
  /-- Makes an empty file in a directory that is there, unless there is a file already. -/
  touch : (path : String) → m (Except FileFault Unit)
  /-- Writes a file in a directory that is there. -/
  write : (path text : String) → m (Except FileFault Unit)

/-- The access from another kind of action. -/
def FileAccess.lift {m n : Type → Type} (f : {α : Type} → m α → n α) (a : FileAccess m) :
    FileAccess n :=
  { here := f a.here
    isFile := fun path => f (a.isFile path)
    read := fun path => f (a.read path)
    makeDirectories := fun path => f (a.makeDirectories path)
    touch := fun path => f (a.touch path)
    write := fun path text => f (a.write path text) }

namespace FileAccess

variable {m : Type → Type} [Monad m] (a : FileAccess m)

/-- The first of the paths that leads to a file. -/
def firstFile : List String → m (Option String)
  | [] => return none
  | path :: rest => do if ← a.isFile path then return some path else firstFile rest

/-- The file of this path; a relative one is looked for in the current directory and then in the
directories above it. -/
def nearest (path : String) : m (Option String) := do
  if Path.isAbsolute path then a.firstFile [path]
  else
    match ← a.here with
    | none => return none
    | some here => a.firstFile ((Path.upward here).map (Path.join · path))

/-- What reading the nearest file of this path gives, if there is one. -/
def readNearest (path : String) : m (Option (Except FileFault String)) := do
  match ← a.nearest path with
  | none => return none
  | some found => return some (← a.read found)

end FileAccess

namespace Files

/-- Changes the tree; a change that fails leaves it as it is. -/
def attempt (change : Files → Except FileFault Files) : StateM Files (Except FileFault Unit) :=
  fun fs =>
    match change fs with
    | .ok after => (.ok (), after)
    | .error e => (.error e, fs)

def access : FileAccess (StateM Files) :=
  { here := fun fs => (some fs.herePath, fs)
    isFile := fun path fs => (fs.isFile path, fs)
    read := fun path fs => (fs.read path, fs)
    makeDirectories := fun path fs => fs.makeDirectories path
    touch := fun path => attempt (·.touch path)
    write := fun path text => attempt (·.write path text) }

/-- The paths at which a file of this path is looked for, the first one first. -/
def candidates (fs : Files) (path : String) : List String :=
  if Path.isAbsolute path then [path] else (Path.upward fs.herePath).map (Path.join · path)

/-- What reading the nearest file of this path gives, if there is one. -/
def readNearest (fs : Files) (path : String) : Option (Except FileFault String) :=
  ((fs.candidates path).find? fs.isFile).map fs.read

/-- A file with an absolute path is looked for there alone. -/
theorem readNearest_of_isAbsolute {fs : Files} {path : String} (h : Path.isAbsolute path = true) :
    fs.readNearest path = if fs.isFile path then some (fs.read path) else none := by
  rw [readNearest, candidates, if_pos h, List.find?_singleton]
  cases fs.isFile path <;> rfl

end Files

namespace FileAccess

/-- What the access finds is what these files of the state hold, and looking changes nothing. -/
structure Reads (a : FileAccess (StateM σ)) (files : σ → Files) : Prop where
  here : ∀ s, a.here.run s = (some (files s).herePath, s)
  isFile : ∀ path s, (a.isFile path).run s = ((files s).isFile path, s)
  read : ∀ path s, (a.read path).run s = ((files s).read path, s)

namespace Reads

variable {a : FileAccess (StateM σ)} {files : σ → Files} (h : a.Reads files)
include h

theorem firstFile (paths : List String) (s : σ) :
    (a.firstFile paths).run s = (paths.find? (files s).isFile, s) := by
  induction paths with
  | nil => rfl
  | cons path rest ih =>
    rw [FileAccess.firstFile, StateT.run_bind, h.isFile, List.find?_cons]
    cases (files s).isFile path with
    | true => rfl
    | false => exact ih

/-- What is looked for upwards is the first of the candidates that is a file. -/
theorem readNearest (path : String) (s : σ) :
    (a.readNearest path).run s = ((files s).readNearest path, s) := by
  have hnearest : (a.nearest path).run s =
      (((files s).candidates path).find? (files s).isFile, s) := by
    unfold FileAccess.nearest Files.candidates
    split
    · exact h.firstFile _ s
    · rw [StateT.run_bind, h.here]
      exact h.firstFile _ s
  rw [FileAccess.readNearest, StateT.run_bind, hnearest, Files.readNearest]
  cases ((files s).candidates path).find? (files s).isFile with
  | none => rfl
  | some found =>
    show (a.read found >>= fun got => pure (some got)).run s = _
    rw [StateT.run_bind, h.read]
    rfl

end Reads

end FileAccess

theorem Files.reads_access : access.Reads fun fs => fs :=
  ⟨fun _ => rfl, fun _ _ => rfl, fun _ _ => rfl⟩

end PlanCourier

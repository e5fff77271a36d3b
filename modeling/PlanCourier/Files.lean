import PlanCourier.Text.Blank

/-!
# Files

A tree of directories and text files, and the operations a run needs of it: reading a file, making
directories, writing a file. A path is followed name by name from a directory; what stands in the
way is a fault with the system's wording.

The tree is a list of places, each with what stands there; the directories above a place are
there too, and the root is always a directory.

Main statement: `look_put`, what was put at a place is found there, and other places are as before.
-/

namespace PlanCourier

/-- The names that lead from the root to a place. -/
abbrev Place := List String

/-- What a file holds, as far as it can be read as text. -/
inductive Content where
  | text (s : String)
  /-- Bytes that are no text. -/
  | bytes
  deriving DecidableEq, Repr

inductive Entry where
  | file (content : Content)
  | directory
  deriving DecidableEq, Repr

/-- Why a file operation fails. -/
inductive FileFault where
  | notFound
  | alreadyThere
  | notDirectory
  | isDirectory
  | nameTooLong
  | badName
  | notText
  /-- Any other reason, in the system's words. -/
  | other (reason : String)
  deriving DecidableEq, Repr

def FileFault.message : FileFault → String
  | .notFound => "No such file or directory (os error 2)"
  | .alreadyThere => "File exists (os error 17)"
  | .notDirectory => "Not a directory (os error 20)"
  | .isDirectory => "Is a directory (os error 21)"
  | .nameTooLong => "File name too long (os error 36)"
  | .badName => "file name contained an unexpected NUL byte"
  | .notText => "stream did not contain valid UTF-8"
  | .other reason => reason

/-- A tree of files, with the directory that relative paths start from. -/
structure Files where
  entries : List (Place × Entry)
  here : Place
  deriving DecidableEq, Repr

namespace Path

/-- The parts of a path between its slashes. -/
def parts (path : String) : List String :=
  (path.toList.splitOnP (· == '/')).map String.ofList

def isAbsolute (path : String) : Bool := ['/'].isPrefixOf path.toList

def endsOpen (path : String) : Bool := ['/'].isSuffixOf path.toList

/-- The parts of a path up to its last name; the slashes that may follow it add nothing. -/
def closedParts (path : String) : List String := Text.dropEndWhile (· == "") (parts path)

def staysPut (part : String) : Bool := part == "" || part == "."

/-- The path above its last name; the root and the empty path have none. What stays where it is
does not count at the end, but the first part of a relative path does count. -/
def parent? (path : String) : Option String :=
  match parts path with
  | [] => none
  | first :: rest =>
    match Text.dropEndWhile staysPut rest with
    | [] => if first = "" then none else some ""
    | kept =>
      match first, Text.dropEndWhile staysPut kept.dropLast with
      | "", [] => some "/"
      | first, above => some ("/".intercalate (first :: above))

/-- A path and the paths above it, of which there are no more than `depth`. -/
def upwardWithin (path : String) : Nat → List String
  | 0 => [path]
  | depth + 1 =>
    match parent? path with
    | none => [path]
    | some above => path :: upwardWithin above depth

/-- A path and all paths above it, from the innermost one on. -/
def upward (path : String) : List String := upwardWithin path (parts path).length

/-- A path that is taken from a directory unless it is absolute. -/
def join (base path : String) : String :=
  if isAbsolute path then path
  else if base.isEmpty || endsOpen base then base ++ path
  else base ++ "/" ++ path

end Path

namespace Files

/-- No files at all, seen from the directory `here`. -/
def emptyAt (here : Place) : Files := ⟨[], here⟩

/-- What stands at a place, if anything does. -/
def look (fs : Files) (place : Place) : Option Entry :=
  if place = [] then some .directory else fs.entries.lookup place

def put (fs : Files) (place : Place) (e : Entry) : Files :=
  { fs with entries := (place, e) :: fs.entries.filter (·.1 != place) }

/-- The tree with all directories on the way to a place, from `above` on. -/
def putDirectories (fs : Files) (above : Place) : List String → Files
  | [] => fs
  | n :: rest =>
    let place := above ++ [n]
    putDirectories (if (fs.look place).isSome then fs else fs.put place .directory) place rest

/-- The tree with an entry and the directories above it. -/
def add (fs : Files) (place : Place) (e : Entry) : Files :=
  (fs.putDirectories [] place.dropLast).put place e

/-- Follows names from a place; the last one need not be there. -/
def follow (fs : Files) (place : Place) : List String → Except FileFault Place
  | [] => .ok place
  | n :: rest =>
    match fs.look place with
    | none => .error .notFound
    | some (.file _) => .error .notDirectory
    | some .directory =>
      if 255 < n.utf8ByteSize then .error .nameTooLong
      else if n = "" ∨ n = "." then fs.follow place rest
      else if n = ".." then fs.follow place.dropLast rest
      else fs.follow (place ++ [n]) rest

/-- No path has this many bytes or more. -/
def pathLimit : Nat := 4096

def origin (fs : Files) (path : String) : Except FileFault Place :=
  if path.toList.contains '\x00' then .error .badName
  else if pathLimit ≤ path.utf8ByteSize then .error .nameTooLong
  else if path.isEmpty then .error .notFound
  else .ok (if Path.isAbsolute path then [] else fs.here)

/-- The place a path leads to; the last name need not be there. -/
def locate (fs : Files) (path : String) : Except FileFault Place :=
  match fs.origin path with
  | .error e => .error e
  | .ok start => fs.follow start (Path.parts path)

def entry? (fs : Files) (path : String) : Except FileFault Entry :=
  match fs.locate path with
  | .error e => .error e
  | .ok place =>
    match fs.look place with
    | some e => .ok e
    | none => .error .notFound

def read (fs : Files) (path : String) : Except FileFault String :=
  match fs.entry? path with
  | .error e => .error e
  | .ok .directory => .error .isDirectory
  | .ok (.file .bytes) => .error .notText
  | .ok (.file (.text s)) => .ok s

/-- Writes a file in a directory that is there. A path that ends in a slash is taken for a
directory's, whatever stands there. -/
def write (fs : Files) (path text : String) : Except FileFault Files :=
  match fs.origin path with
  | .error e => .error e
  | .ok start =>
    if Path.endsOpen path then
      match fs.follow start ((Path.closedParts path).dropLast ++ ["."]) with
      | .error e => .error e
      | .ok _ => .error .isDirectory
    else
      match fs.follow start (Path.parts path) with
      | .error e => .error e
      | .ok place =>
        match fs.look place with
        | some .directory => .error .isDirectory
        | _ => .ok (fs.put place (.file (.text text)))

/-- Makes an empty file in a directory that is there, unless there is a file already. -/
def touch (fs : Files) (path : String) : Except FileFault Files :=
  match fs.entry? path with
  | .ok (.file _) => .ok fs
  | _ => fs.write path ""

def makeDirectory (fs : Files) (path : String) : Except FileFault Files :=
  match fs.origin path with
  | .error e => .error e
  | .ok start =>
    match fs.follow start (Path.closedParts path) with
    | .error e => .error e
    | .ok place =>
      match fs.look place with
      | some _ => .error .alreadyThere
      | none => .ok (fs.put place .directory)

def isDirectory (fs : Files) (path : String) : Bool :=
  match fs.entry? path with
  | .ok .directory => true
  | _ => false

def isFile (fs : Files) (path : String) : Bool :=
  match fs.entry? path with
  | .ok (.file _) => true
  | _ => false

/-- The path of the directory that relative paths start from. -/
def herePath (fs : Files) : String := "/" ++ "/".intercalate fs.here

/-- Makes one directory unless it is there, in a directory that is there. -/
def ensureDirectory (fs : Files) (path : String) : Except FileFault Files :=
  match fs.makeDirectory path with
  | .ok after => .ok after
  | .error e => if fs.isDirectory path then .ok fs else .error e

/-- Makes a directory and those above it, as far as they are not there; `depth` is no less than
the number of parts of the path. Where that fails, the directories above may have been made. -/
def makeDirectoriesWithin (fs : Files) (path : String) : Nat → Except FileFault Unit × Files
  | 0 => (.ok (), fs)
  | depth + 1 =>
    match Path.parent? path with
    | none => (.ok (), fs)
    | some above =>
      match fs.ensureDirectory path with
      | .ok after => (.ok (), after)
      | .error .notFound =>
        match fs.makeDirectoriesWithin above depth with
        | (.error e, after) => (.error e, after)
        | (.ok (), after) =>
          match after.ensureDirectory path with
          | .ok last => (.ok (), last)
          | .error e => (.error e, after)
      | .error e => (.error e, fs)

/-- Makes a directory and those above it, as far as they are not there. -/
def makeDirectories (fs : Files) (path : String) : Except FileFault Unit × Files :=
  fs.makeDirectoriesWithin path ((Path.parts path).length + 1)

def list (fs : Files) (path : String) : List String :=
  match fs.locate path with
  | .error _ => []
  | .ok place =>
    (fs.entries.filterMap fun (p, _) =>
      if p.dropLast = place then p.getLast? else none).mergeSort fun a b => !decide (b < a)

theorem look_put {fs : Files} {place : Place} (h : place ≠ []) (e : Entry) (other : Place) :
    (fs.put place e).look other = if other = place then some e else fs.look other := by
  by_cases ho : other = place
  · subst ho; simp [look, put, h]
  · by_cases hn : other = []
    · simp [look, hn, Ne.symm h]
    · simp only [look, hn, if_false, put, ho, List.lookup_cons, beq_false_of_ne ho]
      induction fs.entries with
      | nil => rfl
      | cons x rest ih =>
        obtain ⟨p, f⟩ := x
        by_cases hp : p = place
        · subst hp; simp [ih, List.lookup_cons, beq_false_of_ne ho]
        · simp only [List.filter_cons, bne_iff_ne, ne_eq, hp, not_false_eq_true, if_true,
            List.lookup_cons]
          split <;> simp_all

end Files

end PlanCourier

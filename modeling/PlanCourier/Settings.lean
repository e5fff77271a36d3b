import PlanCourier.Fault
import PlanCourier.Files.Access
import PlanCourier.Json.Record
import PlanCourier.Json.Skip

/-!
# The user's settings

The settings that outlive a run: the base URL the user chose. They are kept in a file as a JSON
object with the field `base_url`, which in older files is called `PASURL`.

The file is read from its start, and what is wrong first is reported: a fault of the record that
stands before an error of syntax, or the other way round. The members of the object are looked at
one by one, so a name that stands twice is refused even before its second value.
-/

namespace PlanCourier

/-- What is kept between runs. -/
structure Settings where
  baseUrl : String
  deriving DecidableEq, Repr

namespace Settings

/-- The name of the field, and the name it had. -/
def fieldNames : List String := ["base_url", "PASURL"]

def decode : Decode Settings :=
  Decode.record "PluginSettings" 1 fun s =>
    Settings.mk <$> s.field 0 "base_url" Decode.text none ["PASURL"]

def toJson (s : Settings) : Json := .object [("base_url", .text s.baseUrl)]

/-- What the file of these settings holds. -/
def fileText (s : Settings) : String := s.toJson.prettyText

inductive TextFault where
  /-- The text is no JSON text from here on. -/
  | malformed
  | misfit (m : Misfit)
  deriving DecidableEq, Repr

/-- What is wrong with a text that starts with something else than the `wanted` value: a list or an
object is known by its bracket alone. -/
def otherValue (wanted : String) (cs : List Char) : TextFault :=
  match cs with
  | '[' :: _ => .misfit (.kind (.list []) wanted)
  | '\x7b' :: _ => .misfit (.kind (.object []) wanted)
  | cs =>
    match Json.readStart cs with
    | some (v, _) => .misfit (.kind v wanted)
    | none => .malformed

def readText (cs : List Char) : Except TextFault (String × List Char) :=
  match Json.skipGap cs with
  | '"' :: rest =>
    match Json.readString rest with
    | some (s, rest) => .ok (String.ofList s, rest)
    | none => .error .malformed
  | cs => .error (otherValue "a string" cs)

def passColon (cs : List Char) : Except TextFault (List Char) :=
  match Json.skipGap cs with
  | ':' :: rest => .ok rest
  | _ => .error .malformed

/-- The members of an object from a name on, when `url` was read before; the text after the object.
Each member takes one of `fuel`, of which there are enough if there are as many as characters. -/
def readMembers : Nat → Option String → List Char → Except TextFault (Settings × List Char)
  | 0, _, _ => .error .malformed
  | fuel + 1, url, cs =>
    match Json.skipGap cs with
    | '"' :: rest =>
      match Json.readString rest with
      | none => .error .malformed
      | some (name, rest) =>
        if fieldNames.contains (String.ofList name) then
          if url.isSome then .error (.misfit (.twice "base_url"))
          else do
            let rest ← passColon rest
            let (s, rest) ← readText rest
            next fuel (some s) rest
        else do
          let rest ← passColon rest
          match Json.skipValue rest with
          | some rest => next fuel url rest
          | none => .error .malformed
    | _ => .error .malformed
where
  /-- What follows a member. -/
  next (fuel : Nat) (url : Option String) (cs : List Char) :
      Except TextFault (Settings × List Char) :=
    match Json.skipGap cs with
    | ',' :: rest => readMembers fuel url rest
    | '\x7d' :: rest =>
      match url with
      | some u => .ok (⟨u⟩, rest)
      | none => .error (.misfit (.missing "base_url"))
    | _ => .error .malformed

/-- Settings at the start of a text, and what follows them. -/
def readStart (cs : List Char) : Except TextFault (Settings × List Char) :=
  match Json.skipGap cs with
  | '\x7b' :: rest =>
    match Json.skipGap rest with
    | '\x7d' :: _ => .error (.misfit (.missing "base_url"))
    | rest => readMembers (rest.length + 1) none rest
  | '[' :: rest =>
    match Json.skipGap rest with
    | ']' :: _ => .error (.misfit (.length 0 "struct PluginSettings with 1 element"))
    | rest => do
      let (s, rest) ← readText rest
      match Json.skipGap rest with
      | ']' :: rest => .ok (⟨s⟩, rest)
      | _ => .error .malformed
  | '"' :: rest =>
    match Json.readString rest with
    | some (s, _) => .error (.misfit (.kind (.text (String.ofList s)) "struct PluginSettings"))
    | none => .error .malformed
  | cs => .error (otherValue "struct PluginSettings" cs)

/-- The settings that a file's text holds. -/
def ofText (s : String) : Except TextFault Settings := do
  let (settings, rest) ← readStart s.toList
  if (Json.skipGap rest).isEmpty then .ok settings else .error .malformed

/-- The wording of a fault; that of a syntax error is given. -/
def TextFault.message (wording : String) : TextFault → String
  | .malformed => wording
  | .misfit m => m.message

/-- The settings that a file gives, if it is there, for what reading it gives. -/
def ofRead (wording path : String) : Except FileFault String →
    Except SettingsFault (Option Settings)
  | .error .notFound => .ok none
  | .error e => .error (.io path e.message)
  | .ok text =>
    match ofText text with
    | .ok s => .ok (some s)
    | .error e => .error (.format path (e.message wording))

variable {m : Type → Type} [Monad m]

def load (wording : String) (a : FileAccess m) (path : String) :
    m (Except SettingsFault (Option Settings)) := do
  return ofRead wording path (← a.read path)

/-- Keeps settings in a file; the directories above it are made. -/
def save (s : Settings) (a : FileAccess m) (path : String) : m (Except SettingsFault Unit) := do
  match ← a.makeDirectories ((Path.parent? path).getD "") with
  | .error e => return .error (.io path e.message)
  | .ok () =>
    match ← a.write path s.fileText with
    | .error e => return .error (.io path e.message)
    | .ok () => return .ok ()

end Settings

end PlanCourier

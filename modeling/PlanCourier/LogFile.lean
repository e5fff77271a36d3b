import PlanCourier.Config.Basic
import PlanCourier.Files.Access
import PlanCourier.Moment

/-!
# Log files

The file that a run logs to: one for all time, or one for every day or hour, which is named after
it. It is opened at the start of a run and made if it is not there; a run whose log cannot be opened
is over. The lines that are logged are left out.
-/

namespace PlanCourier.LogFile

/-- The name that all log files begin with. -/
def stem : String := "paas.log"

/-- The day of a moment, as it stands in a file's name. -/
def dayText (now : Moment) : String :=
  let d := Moment.dateOf now.dayOf
  Moment.yearText d.year ++ "-" ++ Moment.padded 2 d.month ++ "-" ++ Moment.padded 2 d.day

def name (now : Moment) : Rotation → String
  | .never => stem
  | .daily => stem ++ "." ++ dayText now
  | .hourly => stem ++ "." ++ dayText now ++ "-" ++ Moment.padded 2 (now.msOfDay / 3600000)

variable {m : Type → Type} [Monad m]

/-- The path of the file that is logged to at a moment, if there is to be one. -/
def path? (s : LoggingSection) (now : Moment) : Option String :=
  s.directory.map (Path.join · (name now s.rotation))

/-- Why a log file cannot be opened. -/
inductive Fault where
  /-- The directories above it cannot be made. -/
  | directory (cause : FileFault)
  | file (cause : FileFault)
  deriving DecidableEq, Repr

def Fault.message : Fault → String
  | .directory cause => "failed to create log directory: " ++ cause.message
  | .file cause => "failed to create initial log file: " ++ cause.message

/-- Opens a log file. Only where that fails at first, the directories above it are made. -/
def openAt (a : FileAccess m) (path : String) : m (Except Fault Unit) := do
  match ← a.touch path with
  | .ok () => return .ok ()
  | .error _ =>
    match ← a.makeDirectories ((Path.parent? path).getD "") with
    | .error cause => return .error (.directory cause)
    | .ok () => return (← a.touch path).mapError .file

/-- Opens the file that is logged to at a moment, if there is to be one. -/
def start (a : FileAccess m) (s : LoggingSection) (now : Moment) : m (Except Fault Unit) :=
  match path? s now with
  | none => return .ok ()
  | some path => openAt a path

end PlanCourier.LogFile

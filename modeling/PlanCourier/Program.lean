import PlanCourier.Command.Execute
import PlanCourier.Command.Grammar
import PlanCourier.LogFile

/-!
# A run of the program

From the words of the command line to the code that the run exits with: the command line is read,
the configuration is loaded, the log is opened, the session takes up the kept settings, the command
is carried out, and its conclusion is printed. A run whose log cannot be opened is given up before
it takes up anything.
-/

namespace PlanCourier

/-- What is said of an error of syntax in the settings file. -/
def Settings.syntaxWording : String := "invalid JSON"

namespace Invocation

variable {m : Type → Type} [Monad m]

/-- The configuration of a run: of the file that is named, or else of the project and the
environment. -/
def loadConfig (h : Host m) (env : Environment) (i : Invocation) : m (Except LoadFault Config) :=
  match i.options.config with
  | some path => Config.ofFile h.files path
  | none => Config.ofDirectory h.files env Config.directory

/-- Carries out the command with a configuration, once the log is opened. -/
def carryOut (h : Host m) (config : Config) (i : Invocation) : m Conclusion := do
  let kept ← Settings.load Settings.syntaxWording h.files config.settingsPath
  let session := Session.start config.service.baseUrl kept i.options.baseUrl
  i.command.execute h ⟨config, session⟩ i.options.json

/-- Opens the log and carries out the command. -/
def executeWith (h : Host m) (config : Config) (i : Invocation) :
    m (Except LogFile.Fault Conclusion) := do
  match ← LogFile.start h.files config.logging (← h.now) with
  | .error fault => return .error fault
  | .ok () => return .ok (← i.carryOut h config)

/-- Carries out the command, unless the log cannot be opened. -/
def conclude (h : Host m) (env : Environment) (i : Invocation) :
    m (Except LogFile.Fault Conclusion) := do
  match ← i.loadConfig h env with
  | .error fault => return .ok (.failed (.config fault))
  | .ok config => i.executeWith h config

/-- The run of a command line that is understood. -/
def run (h : Host m) (env : Environment) (i : Invocation) : m UInt32 := do
  match ← i.conclude h env with
  | .error fault => h.abort ("initializing rolling file appender failed: " ++ fault.message)
  | .ok c => c.print h i.options.json

end Invocation

namespace UsageFault

/-- The code that a run exits with. -/
def exitCode (f : UsageFault) : UInt32 := if f.isQuestion then 0 else 2

def versionText : String := "paas 0.1.0"

def usageText : String :=
  "Usage: paas [--json] [--base-url URL] [--config FILE] COMMAND\n\n" ++
  "Commands:\n" ++
  "  solve      Solve a domain/problem pair and print the plans\n" ++
  "  packages   List solver packages and their parameters\n" ++
  "  browse     Browse the public collections\n" ++
  "  validate   Run solve-and-validate over benchmark problems\n" ++
  "  settings   Show or change saved settings"

/-- What is wrong with the command line. -/
def reason : UsageFault → String
  | .help | .version | .nothingGiven => ""
  | .noCommand => "a command is missing"
  | .unknownCommand => "there is no such command"
  | .unknownArgument => "unexpected argument"
  | .noValue => "an option lacks its value"
  | .surplusValue => "an option takes no value"
  | .badValue message => "invalid value: " ++ message
  | .conflict => "options that cannot be used together"
  | .missingWord => "an argument is missing"

variable {m : Type → Type} [Monad m]

/-- Answers a command line that does not lead to a run. -/
def report (h : Host m) (f : UsageFault) : m UInt32 := do
  match f with
  | .help => h.out usageText
  | .version => h.out versionText
  | .nothingGiven => h.err usageText
  | f =>
    h.err ("error: " ++ f.reason)
    h.err usageText
  return f.exitCode

end UsageFault

/-- A run of the program with the words of its command line. -/
def Program.run {m : Type → Type} [Monad m] (h : Host m) (env : Environment) (words : List String) :
    m UInt32 :=
  match Invocation.ofArguments words with
  | .error fault => fault.report h
  | .ok i => i.run h env

end PlanCourier

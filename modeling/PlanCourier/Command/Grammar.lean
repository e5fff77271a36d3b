import PlanCourier.Command.Basic
import PlanCourier.Command.Line
import PlanCourier.Command.Reference

/-!
# The commands of the program

What each command takes on the command line. Some commands have others below them; `help` stands
among these and is followed by the command that is asked about.
-/

namespace PlanCourier

open CommandLine

/-- The arguments of a command, with the common options that stand beside them. -/
abbrev Beside (α : Type) := CommonOptions × α

namespace CommandLine

/-- What any text does in a place that takes one. -/
def anyText (set : String → σ → σ) (s : String) : Except UsageFault (σ → σ) := .ok (set s)

/-- What the text of an integer does in a place that takes one. -/
def anyInteger (set : Int → σ → σ) (s : String) : Except UsageFault (σ → σ) :=
  match Text.readInteger .signed64 s.toList with
  | .ok i => .ok (set i)
  | .error cause => .error (.badValue cause.message)

def textSwitch (name : String) (letter : Option Char) (set : String → σ → σ) : Switch σ :=
  ⟨name, letter, .value ⟨name, false, anyText set⟩⟩

def helpSwitch : Switch σ := ⟨"help", some 'h', .stop .help⟩

def versionSwitch : Switch σ := ⟨"version", some 'V', .stop .version⟩

/-- The configuration file; the empty path is no value. -/
def configSwitch : Switch (Beside α) :=
  ⟨"config", none, .value ⟨"config", false, fun s =>
    if s.isEmpty then .error .noValue
    else .ok fun (o, a) => ({ o with config := some s }, a)⟩⟩

def commonSwitches : List (Switch (Beside α)) :=
  [⟨"json", some 'j', .mark fun (o, a) => ({ o with json := true }, a)⟩,
    textSwitch "base-url" none fun s (o, a) => ({ o with baseUrl := some s }, a),
    configSwitch, helpSwitch]

/-- A command, or several commands below one name. -/
inductive Tree where
  | leaf (read : List String → Except UsageFault (Beside Command))
  | branch (below : List (String × Tree))

/-- A command that takes switches and words. -/
def leaf (switches : List (Switch (Beside α))) (words : Words (Beside α)) (blank : α)
    (finish : α → Except UsageFault Command) : Tree :=
  .leaf fun ws => do
    match ← scan ⟨commonSwitches ++ switches, words, []⟩ false (.start (.unset, blank)) ws with
    | .ended p => return (p.args.1, ← finish p.args.2)
    | .command .. => throw .unknownCommand

def appendInteger (i : Int) : Beside (List Int) → Beside (List Int)
  | (o, is) => (o, is ++ [i])

mutual

/-- What the words after `help` ask for. -/
def Tree.explain : Tree → List String → UsageFault
  | _, [] => .help
  | .leaf _, _ :: _ => .unknownCommand
  | .branch below, name :: rest => Tree.explainBelow below name rest

/-- What the words after `help` ask for, of which the first one is a name. -/
def Tree.explainBelow : List (String × Tree) → String → List String → UsageFault
  | [], name, rest => if name = "help" ∧ rest = [] then .help else .unknownCommand
  | (n, t) :: more, name, rest =>
    if n = name then t.explain rest else Tree.explainBelow more name rest

end

mutual

/-- Reads the words of a tree; `more` are further switches at its top. -/
def Tree.read (more : List (Switch (Beside Unit))) : Tree → List String →
    Except UsageFault (Beside Command)
  | .leaf read, ws => read ws
  | .branch below, ws => do
    let sh : Shape (Beside Unit) := ⟨commonSwitches ++ more, .none, below.map (·.1) ++ ["help"]⟩
    match ← scan sh false (.start (.unset, ())) ws with
    | .ended p => throw (if p.given.isEmpty then .nothingGiven else .noCommand)
    | .command "help" rest _ => throw ((Tree.branch below).explain rest)
    | .command name rest p =>
      let (own, command) ← Tree.readBelow below name rest
      let p ← p.settle sh
      return (own.above p.args.1, command)

def Tree.readBelow : List (String × Tree) → String → List String →
    Except UsageFault (Beside Command)
  | [], _, _ => .error .unknownCommand
  | (n, t) :: more, name, ws => if n = name then t.read [] ws else Tree.readBelow more name ws

end

end CommandLine

namespace Command

def finishSolve (o : SolveOrder) : Except UsageFault Command :=
  if o.hosted && o.listed.isSome then .error .conflict else .ok (.solve o)

/-- What a parameter does in its place. -/
def takeParameter (s : String) : Except UsageFault (Beside SolveOrder → Beside SolveOrder) :=
  match Assignment.read s with
  | .ok p => .ok fun (o, a) => (o, { a with parameters := a.parameters ++ [p] })
  | .error f => .error (.badValue f.message)

def solveTree : Tree :=
  leaf
    [textSwitch "domain" (some 'd') fun s (o, a) => (o, { a with domain := some s }),
      textSwitch "problem" none fun s (o, a) => (o, { a with problem := some s }),
      textSwitch "package" (some 'p') fun s (o, a) => (o, { a with package := some s }),
      ⟨"param", none, .value ⟨"param", true, takeParameter⟩⟩,
      ⟨"urls", none, .mark fun (o, a) => (o, { a with hosted := true })⟩,
      textSwitch "catalog" none fun s (o, a) => (o, { a with listed := some s })]
    (.many (anyText fun s (o, a) => (o, { a with files := a.files ++ [s] })))
    .blank finishSolve

def packagesTree : Tree :=
  leaf [] (.one (anyText fun s (o, _) => (o, some s))) none fun name => .ok (.packages name)

/-- Lists what the public collections hold. -/
def browseTree : Tree :=
  .branch
    [("collections", leaf [] .none () fun _ => .ok .collections),
      ("domains",
        leaf [textSwitch "collection" (some 'c') fun s (o, _) => (o, some s)] .none none
          fun collection => .ok (.domains collection)),
      ("problems",
        leaf [] (.one (anyInteger fun i (o, _) => (o, some i))) none fun domain =>
          match domain with
          | some i => .ok (.problems i)
          | none => .error .missingWord)]

def validateTree : Tree :=
  leaf [] (.many (anyInteger appendInteger)) [] fun is => .ok (.validate is)

def settingsTree : Tree :=
  .branch
    [("show", leaf [] .none () fun _ => .ok .showSettings),
      ("set-url",
        leaf [] (.one (anyText fun s (o, _) => (o, some s))) none fun url =>
          match url with
          | some s => .ok (.setUrl s)
          | none => .error .missingWord)]

def tree : Tree :=
  .branch [("solve", solveTree), ("packages", packagesTree), ("browse", browseTree),
    ("validate", validateTree), ("settings", settingsTree)]

end Command

/-- The command line that these words are. -/
def Invocation.ofArguments (ws : List String) : Except UsageFault Invocation := do
  let (options, command) ← Command.tree.read [versionSwitch] ws
  return ⟨command, options⟩

end PlanCourier

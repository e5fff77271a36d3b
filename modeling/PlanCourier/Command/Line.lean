/-!
# Reading a command line

A command line is read word by word. A word that begins with two dashes is a switch by its name, a
value may follow after an equals sign; one that begins with one dash is a row of switches by their
letters, of which the last may have its value attached. A switch that takes a value and has none yet
takes the next word. Two dashes alone end the switches. Any other word names a command below the
present one, or else it is an argument of its own.

What a switch or a word says is settled when the next one is reached, or at the end, so a word that
cannot be understood at all is reported before a value that is not accepted.
-/

namespace PlanCourier

/-- Why a command line does not lead to a run. -/
inductive UsageFault where
  /-- The user asks for help. -/
  | help
  /-- The user asks for the version. -/
  | version
  /-- There is neither a command nor an option. -/
  | nothingGiven
  /-- There are options, but no command. -/
  | noCommand
  | unknownCommand
  /-- A switch that is not known, or a word too many. -/
  | unknownArgument
  /-- A switch lacks its value. -/
  | noValue
  /-- A switch that takes no value has one. -/
  | surplusValue
  | badValue (message : String)
  /-- Two switches that exclude each other, or one that stands twice. -/
  | conflict
  | missingWord
  deriving DecidableEq, Repr

/-- Whether the fault only asks to be told something. -/
def UsageFault.isQuestion : UsageFault → Bool
  | .help | .version => true
  | _ => false

namespace CommandLine

/-- A place for values among the arguments `σ` of a command. -/
structure Slot (σ : Type) where
  name : String
  /-- Whether it takes more than one value. -/
  repeats : Bool
  /-- What a value does to the arguments. -/
  take : String → Except UsageFault (σ → σ)

inductive Effect (σ : Type) where
  | mark (set : σ → σ)
  | value (slot : Slot σ)
  /-- The command line is not read any further. -/
  | stop (fault : UsageFault)

structure Switch (σ : Type) where
  name : String
  letter : Option Char
  effect : Effect σ

/-- The words that a command takes besides its switches. -/
inductive Words (σ : Type) where
  | none
  | one (take : String → Except UsageFault (σ → σ))
  | many (take : String → Except UsageFault (σ → σ))

/-- What a command takes: switches, words, and the names of the commands below it. -/
structure Shape (σ : Type) where
  switches : List (Switch σ)
  words : Words σ
  commands : List String

/-- What has been read and not been settled. -/
inductive Pending (σ : Type) where
  | nothing
  /-- A switch without its value. -/
  | awaiting (slot : Slot σ)
  | held (slot : Slot σ) (value : String)
  | words (words : List String)

/-- A command line that has been read in part. -/
structure Progress (σ : Type) where
  args : σ
  /-- The names of the switches that were settled. -/
  given : List String
  pending : Pending σ
  /-- Whether the only word was read. -/
  full : Bool

inductive Form where
  | name (name : String) (value : Option String)
  | letters (letters : List Char)
  | plain
  deriving DecidableEq, Repr

def Form.of (word : String) : Form :=
  match word.toList with
  | '-' :: '-' :: cs =>
    let name := cs.takeWhile (· != '=')
    .name (String.ofList name)
      (match cs.dropWhile (· != '=') with
      | [] => none
      | _ :: value => some (String.ofList value))
  | '-' :: c :: cs => .letters (c :: cs)
  | _ => .plain

variable {σ : Type}

namespace Progress

def start (args : σ) : Progress σ := ⟨args, [], .nothing, false⟩

def isAwaiting (p : Progress σ) : Bool :=
  match p.pending with
  | .awaiting _ => true
  | _ => false

/-- Notes that a switch was given. -/
def noted (p : Progress σ) (name : String) (repeats : Bool) : Except UsageFault (Progress σ) :=
  if !repeats && p.given.contains name then .error .conflict
  else .ok { p with given := name :: p.given }

def store (p : Progress σ) (slot : Slot σ) (value : String) : Except UsageFault (Progress σ) := do
  let p ← p.noted slot.name slot.repeats
  let set ← slot.take value
  return { p with args := set p.args }

/-- Puts words in their place, one after another. -/
def storeWords (take : String → Except UsageFault (σ → σ)) (args : σ) :
    List String → Except UsageFault σ
  | [] => .ok args
  | w :: rest => do
    let set ← take w
    storeWords take (set args) rest

/-- What a word does in a place for words. -/
def Words.taker : Words σ → String → Except UsageFault (σ → σ)
  | .none => fun _ => .error .unknownArgument
  | .one take | .many take => take

/-- Settles what is open. -/
def settle (sh : Shape σ) (p : Progress σ) : Except UsageFault (Progress σ) :=
  match p.pending with
  | .nothing => .ok p
  | .awaiting _ => .error .noValue
  | .held slot value => { p with pending := .nothing }.store slot value
  | .words ws => do
    let args ← storeWords (Words.taker sh.words) p.args ws
    return { p with args, pending := .nothing }

/-- Reads a switch that takes no value. -/
def act (sh : Shape σ) (p : Progress σ) (name : String) : Effect σ →
    Except UsageFault (Progress σ)
  | .mark set => do
    let p ← (← p.settle sh).noted name false
    return { p with args := set p.args }
  | .value slot => do
    return { ← p.settle sh with pending := .awaiting slot }
  | .stop fault => do
    let _ ← p.settle sh
    throw fault

def byName (sh : Shape σ) (p : Progress σ) (name : String) (value : Option String) :
    Except UsageFault (Progress σ) :=
  match sh.switches.find? (·.name == name) with
  | none => .error .unknownArgument
  | some s =>
    match s.effect, value with
    | effect, none => p.act sh s.name effect
    | .value slot, some v => do (← p.settle sh).store slot v
    | _, some _ => .error .surplusValue

/-- Reads a row of switches by their letters; what follows one that takes a value is its value, of
which an equals sign in front is no part. -/
def byLetters (sh : Shape σ) (p : Progress σ) : List Char → Except UsageFault (Progress σ)
  | [] => .ok p
  | c :: rest =>
    match sh.switches.find? (·.letter == some c) with
    | none => .error .unknownArgument
    | some s =>
      match s.effect, rest with
      | .value slot, '=' :: value => do (← p.settle sh).store slot (String.ofList value)
      | .value slot, v :: value => do (← p.settle sh).store slot (String.ofList (v :: value))
      | effect, rest => do byLetters sh (← p.act sh s.name effect) rest

/-- Reads a word that belongs to no switch; `ended` tells whether the switches have ended. -/
def word (sh : Shape σ) (ended : Bool) (p : Progress σ) (w : String) :
    Except UsageFault (Progress σ) :=
  match sh.words with
  | .none =>
    if sh.commands.isEmpty || (ended && sh.commands.contains w) then .error .unknownArgument
    else .error .unknownCommand
  | .one _ =>
    if p.full then .error .unknownArgument
    else do return { ← p.settle sh with pending := .words [w], full := true }
  | .many _ =>
    match p.pending with
    | .words ws => .ok { p with pending := .words (ws ++ [w]) }
    | _ => do return { ← p.settle sh with pending := .words [w] }

/-- Reads a word before the switches have ended. -/
def read (sh : Shape σ) (p : Progress σ) (w : String) : Except UsageFault (Progress σ) :=
  match Form.of w with
  | .name name value => p.byName sh name value
  | .letters cs => p.byLetters sh cs
  | .plain =>
    match p.pending with
    | .awaiting slot => .ok { p with pending := .held slot w }
    | _ => p.word sh false w

end Progress

/-- Where the reading of a command's words ends. -/
inductive Stop (σ : Type) where
  /-- All words were read and settled. -/
  | ended (p : Progress σ)
  /-- A command below this one is named, and words follow. -/
  | command (name : String) (rest : List String) (p : Progress σ)

/-- Reads the words of a command; `ended` tells whether the switches have ended. -/
def scan (sh : Shape σ) (ended : Bool) (p : Progress σ) : List String → Except UsageFault (Stop σ)
  | [] => (p.settle sh).map .ended
  | w :: rest =>
    if ended then do scan sh true (← p.word sh true w) rest
    else if !p.isAwaiting && sh.commands.contains w then .ok (.command w rest p)
    else if w = "--" then scan sh true p rest
    else do scan sh false (← p.read sh w) rest

end CommandLine

end PlanCourier

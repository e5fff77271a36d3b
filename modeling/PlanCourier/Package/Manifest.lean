import PlanCourier.Json.Record

/-!
# Solver packages

What a service publishes about its solver packages: each package has a name and services, a service
has arguments, and an argument may have a default and a choice of values. A listing names the
packages by keys in order; a package without a name of its own takes its key.

Main statement: `accepts_choice`, a value of the choice is accepted.
-/

namespace PlanCourier

/-- One of the values a parameter may have, with the name it is shown by. -/
structure Choice where
  value : String
  display : String
  deriving DecidableEq, Repr

/-- An argument of a package's service. -/
structure Parameter where
  name : String
  kind : String
  description : Option String
  default : Option Json
  choices : List Choice
  deriving DecidableEq, Repr

structure PackageService where
  args : List Parameter
  returns : Option Json
  deriving DecidableEq, Repr

/-- A solver package, its services in order of their names. -/
structure Package where
  name : String
  description : Option String
  services : List (String × PackageService)
  deriving DecidableEq, Repr

/-- The packages of a service, in order of their keys. -/
abbrev Listing := List (String × Package)

namespace Choice

/-- A text as it is, and any other value as JSON text. -/
def scalar : Decode String
  | .text s => .ok s
  | v => .ok v.compactText

def decode : Decode Choice :=
  Decode.record "ParameterChoice" 2 fun s =>
    Choice.mk <$> s.required 0 "value" scalar
      <*> s.field 1 "display" Decode.text (some "") ["display_value"]

def toJson (c : Choice) : Json :=
  .ofMembers [("value", .text c.value), ("display", .text c.display)]

end Choice

namespace Parameter

/-- Whether only some values are allowed. -/
def isCategorical (p : Parameter) : Bool := p.kind == "categorical" || !p.choices.isEmpty

/-- The default as the text that is sent, if there is one. -/
def defaultText (p : Parameter) : Option String :=
  match p.default with
  | none | some .null => none
  | some (.text s) => some s
  | some v => some v.compactText

def choiceValues (p : Parameter) : List String := p.choices.map (·.value)

def accepts (p : Parameter) (value : String) : Bool :=
  !p.isCategorical || p.choiceValues.contains value

def decode : Decode Parameter :=
  Decode.record "ParameterSpec" 5 fun s =>
    Parameter.mk <$> s.required 0 "name" Decode.text
      <*> s.defaulted 1 "type" Decode.text ""
      <*> s.optional 2 "description" Decode.text
      <*> s.optional 3 "default" Decode.any
      <*> s.defaulted 4 "choices" (Decode.list Choice.decode) []

def toJson (p : Parameter) : Json :=
  .ofMembers <| ("name", .text p.name) :: ("type", .text p.kind) ::
    ((p.description.map fun d => ("description", Json.text d)).toList ++
      (p.default.map fun d => ("default", d)).toList ++
      (if p.choices.isEmpty then [] else [("choices", .list (p.choices.map Choice.toJson))]))

theorem accepts_choice {p : Parameter} {v : String} (h : v ∈ p.choiceValues) :
    p.accepts v = true := by
  simp [accepts, h]

end Parameter

namespace PackageService

def decode : Decode PackageService :=
  Decode.record "ServiceManifest" 2 fun s =>
    PackageService.mk <$> s.defaulted 0 "args" (Decode.list Parameter.decode) []
      <*> s.optional 1 "returns" Decode.any

def toJson (s : PackageService) : Json :=
  .ofMembers (("args", .list (s.args.map Parameter.toJson)) ::
    (s.returns.map fun r => ("returns", r)).toList)

end PackageService

namespace Package

/-- The services of a package, from the record that holds them. -/
def decodeServices : Decode (List (String × PackageService)) :=
  Decode.record "PackageEndpoint" 1 fun s =>
    s.defaulted 0 "services" (Decode.table PackageService.decode) []

def decode : Decode Package :=
  Decode.record "PackageManifest" 3 fun s =>
    Package.mk <$> s.defaulted 0 "name" Decode.text ""
      <*> s.optional 1 "description" Decode.text
      <*> s.defaulted 2 "endpoint" decodeServices []

def toJson (p : Package) : Json :=
  .ofMembers [("name", .text p.name), ("description", .ofOption .text p.description),
    ("endpoint", .ofMembers [("services",
      .ofMembers (p.services.map fun (name, s) => (name, s.toJson)))])]

def solveService? (p : Package) : Option PackageService := p.services.lookup "solve"

/-- The arguments of the solve service that are no documents. -/
def solveParameters (p : Package) : List Parameter :=
  match p.solveService? with
  | some s => s.args.filter fun a => a.name != "domain" && a.name != "problem"
  | none => []

/-- The package with its key for a name if it has none. -/
def nameFromKey (key : String) (p : Package) : Package :=
  if p.name.isEmpty then { p with name := key } else p

end Package

namespace Listing

/-- Reads a listing, naming the packages by their keys where they have no name. -/
def decode : Decode Listing := fun v =>
  (Decode.table Package.decode v).map fun ps => ps.map fun (key, p) => (key, p.nameFromKey key)

def toJson (l : Listing) : Json := .ofMembers (l.map fun (key, p) => (key, p.toJson))

/-- The packages in order of their names; packages of one name stay in order of their keys. -/
def sorted (l : Listing) : List Package :=
  (l.map (·.2)).mergeSort fun a b => !decide (b.name < a.name)

end Listing

end PlanCourier

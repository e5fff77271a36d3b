/-!
# Commands

What a run of the program is told to do: one command, and the options that every command takes.
-/

namespace PlanCourier

/-- What to solve, and how. -/
structure SolveOrder where
  /-- Documents from which domain and problem are chosen. -/
  files : List String
  /-- The domain document, or its address. -/
  domain : Option String
  /-- The problem document, or its address. -/
  problem : Option String
  /-- The solver package, if it is not the configured one. -/
  package : Option String
  parameters : List (String × String)
  /-- Whether domain and problem are addresses. -/
  hosted : Bool
  /-- A problem of the public collections. -/
  listed : Option String
  deriving DecidableEq, Repr

/-- An order without any detail. -/
def SolveOrder.blank : SolveOrder := ⟨[], none, none, none, [], false, none⟩

inductive Command where
  | solve (order : SolveOrder)
  /-- Lists the packages, or the parameters of one. -/
  | packages (name : Option String)
  | collections
  /-- Lists the domains, or those of one collection. -/
  | domains (collection : Option String)
  | problems (domain : Int)
  /-- Validates these problems, or the default ones if there are none. -/
  | validate (problems : List Int)
  | showSettings
  | setUrl (url : String)
  deriving DecidableEq, Repr

structure CommonOptions where
  /-- Whether the output is JSON. -/
  json : Bool
  /-- The address of the solver for this run. -/
  baseUrl : Option String
  /-- The configuration file for this run. -/
  config : Option String
  deriving DecidableEq, Repr

namespace CommonOptions

def unset : CommonOptions := ⟨false, none, none⟩

/-- Options of a command together with those given before it; its own count more. -/
def above (own before : CommonOptions) : CommonOptions :=
  ⟨own.json || before.json, own.baseUrl.or before.baseUrl, own.config.or before.config⟩

end CommonOptions

structure Invocation where
  command : Command
  options : CommonOptions
  deriving DecidableEq, Repr

end PlanCourier

import Parley.Payload
import Parley.Value.Basic

/-!
# Configurations

A conversation described as data. A configuration has leaves (`NodeConfig`),
flows that hold them and each other (`FlowConfig`), the name of the outermost
flow and the settings of a session.

A node says what it shows and asks, what it stores, and where to go next: to
one node, to one of several by the value of a key, or where a registered
decision function says. `NodeConfig.targets` are the names that it may route to
as far as the configuration tells.
-/

namespace Parley.Config

/-- Routing by the value of a key. -/
structure BranchConfig where
  key : String
  /-- The next node for the text of a value. -/
  cases : List (String × String)
  /-- The next node where no case fits. -/
  default : Option String
  deriving DecidableEq, Repr

structure NodeConfig where
  output : Option Payload
  outputTransform : Option String
  expectation : Option Payload
  expectationTransform : Option String
  /-- The key under which the input is stored. -/
  store : Option String
  /-- Entries that are always merged. -/
  patch : List (String × Value)
  next : Option String
  branch : Option BranchConfig
  /-- The name of a decision function, in place of the four above. -/
  decide : Option String

structure FlowConfig where
  description : String
  nodes : List String
  /-- The first child. -/
  root : String
  /-- The sibling to go to when the flow is over. -/
  next : Option String
  /-- The name of a decision function in place of `next`. -/
  decide : Option String
  deriving DecidableEq, Repr

inductive LogLevel where
  | debug
  | info
  | warning
  | error
  deriving DecidableEq, Repr

def LogLevel.name : LogLevel → String
  | .debug => "DEBUG"
  | .info => "INFO"
  | .warning => "WARNING"
  | .error => "ERROR"

structure Settings where
  logLevel : LogLevel
  logFile : Option String
  showState : Bool
  deriving DecidableEq, Repr

/-- A whole configuration. Names of nodes and of flows are pairwise different
    within their section. -/
structure FlowFile where
  version : String
  root : String
  settings : Settings
  nodes : List (String × NodeConfig)
  flows : List (String × FlowConfig)

def defaultSettings : Settings := ⟨.warning, none, false⟩

def currentVersion : String := "1.0"

def defaultRoot : String := "main"

/-- The names that a branch may route to. -/
def BranchConfig.targets (b : BranchConfig) : List String :=
  b.cases.map Prod.snd ++ b.default.toList

/-- The names that a node may route to. -/
def NodeConfig.targets (n : NodeConfig) : List String :=
  match n.next, n.branch with
  | some next, _ => [next]
  | none, some b => b.targets
  | none, none => []

/-- The entry of a name. -/
def lookup {α : Type} (name : String) (entries : List (String × α)) : Option α :=
  (entries.find? fun e => e.1 = name).map Prod.snd

/-- Sets the entry of a name, in its place if there is one. -/
def put {α : Type} (name : String) (x : α) : List (String × α) → List (String × α)
  | [] => [(name, x)]
  | e :: es => if e.1 = name then (name, x) :: es else e :: put name x es

end Parley.Config

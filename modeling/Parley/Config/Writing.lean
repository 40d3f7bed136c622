import Parley.Config.Schema

/-!
# Writing configurations

The value that spells a configuration out: a record of all fields of each part, those that have
their default values included, and each flow with its root.
-/

namespace Parley

namespace Config

/-- Null, or a value. -/
def optionalValue {α : Type} (write : α → Value) : Option α → Value
  | none => .null
  | some x => write x

/-- A record with textual keys. -/
def recordValue {α : Type} (write : α → Value) (entries : List (String × α)) : Value :=
  .record (entries.map fun e => (.text e.1, write e.2))

def listValue {α : Type} (write : α → Value) (items : List α) : Value :=
  .list (items.map write)

end Config

open Config

/-- A payload with its kind. -/
def Payload.toValue : Payload → Value
  | .text s => recordValue id [("kind", .text "text"), ("text", .text s)]
  | .markdown s => recordValue id [("kind", .text "markdown"), ("text", .text s)]
  | .freeText n => recordValue id [("kind", .text "free_text"), ("max_length", .int n)]
  | .choice options =>
    recordValue id [("kind", .text "choice"), ("options", listValue .text options)]

namespace Config

def BranchConfig.toValue (b : BranchConfig) : Value :=
  recordValue id
    [ ("key", .text b.key),
      ("cases", recordValue .text b.cases),
      ("default", optionalValue .text b.default) ]

def NodeConfig.toValue (n : NodeConfig) : Value :=
  recordValue id
    [ ("output", optionalValue Payload.toValue n.output),
      ("output_transform", optionalValue .text n.outputTransform),
      ("expectation", optionalValue Payload.toValue n.expectation),
      ("expectation_transform", optionalValue .text n.expectationTransform),
      ("store", optionalValue .text n.store),
      ("patch", recordValue id n.patch),
      ("next", optionalValue .text n.next),
      ("branch", optionalValue BranchConfig.toValue n.branch),
      ("decide", optionalValue .text n.decide) ]

def FlowConfig.toValue (f : FlowConfig) : Value :=
  recordValue id
    [ ("description", .text f.description),
      ("nodes", listValue .text f.nodes),
      ("root", .text f.root),
      ("next", optionalValue .text f.next),
      ("decide", optionalValue .text f.decide) ]

def Settings.toValue (s : Settings) : Value :=
  recordValue id
    [ ("log_level", .text s.logLevel.name),
      ("log_file", optionalValue .text s.logFile),
      ("show_state", .bool s.showState) ]

def FlowFile.toValue (c : FlowFile) : Value :=
  recordValue id
    [ ("version", .text c.version),
      ("root", .text c.root),
      ("settings", c.settings.toValue),
      ("nodes", recordValue NodeConfig.toValue c.nodes),
      ("flows", recordValue FlowConfig.toValue c.flows) ]

end Config

end Parley

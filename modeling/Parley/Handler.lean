import Parley.Fault
import Parley.Payload
import Parley.Value.Mapping
import Parley.Template

/-!
# Decisions and transforms

The two kinds of handlers that a flow consults. A *decider* is asked where to
go when an element is done: a leaf with the input it received, a manager with
none. A *transform* computes what an emitter emits from the shared state.

A decider may reply in several forms; `Reply.decision` brings them into one.
-/

namespace Parley

/-- Where to go, and what to merge into the state before going there. Neither
    part has been checked: a handler may put any value there. -/
structure Decision where
  /-- The name of the next element, or null to finish. -/
  next : Value
  /-- The entries to merge, or null. -/
  patch : Value

namespace Decision

/-- The traversal is over. -/
def finishes (d : Decision) : Bool :=
  d.next.isNull

/-- An empty patch is the same as none. -/
def patchOf (patch : Mapping) : Value :=
  if patch.isEmpty then .null else .record patch

/-- Go on to an element. -/
def goto (next : Value) (patch : Mapping) : Decision :=
  ⟨next, patchOf patch⟩

/-- Finish the traversal. -/
def finish (patch : Mapping) : Decision :=
  ⟨.null, patchOf patch⟩

end Decision

/-- What a decider returns. -/
inductive Reply where
  | nothing
  | decision (d : Decision)
  /-- Any other value. -/
  | value (v : Value)

/-- The keys that a record standing for a decision may have. -/
def decisionKeys : List String := ["next_node", "state_patch"]

/-- The fault of a value that stands for no decision; it is reported with the value, if
    that can be written. -/
def Decision.unsupported (v : Value) : Fault :=
  match v.literal with
  | .ok words => .configuration (.unsupportedReply words)
  | .error cause => .misuse cause

/-- The decision that a value stands for: null finishes, and so does a record
    of the decision keys that names no next element. -/
def Decision.ofValue (v : Value) : Except Fault Decision :=
  match v with
  | .null => .ok ⟨.null, .null⟩
  | .record entries =>
    if entries.all fun e => decisionKeys.any fun k => e.1.sameKey (.text k) then
      .ok ⟨Mapping.get entries "next_node", Mapping.get entries "state_patch"⟩
    else .error (unsupported v)
  | _ => .error (unsupported v)

/-- The decision that a reply stands for. -/
def Reply.decision? : Reply → Except Fault Decision
  | .nothing => .ok ⟨.null, .null⟩
  | .decision d => .ok d
  | .value v => Decision.ofValue v

/-! ### Logging -/

inductive Level where
  | debug
  | info
  | warning
  deriving DecidableEq, Repr

/-- The part of the library that a log entry comes from. -/
inductive Channel where
  | node
  | manager
  | emitter
  | builder
  | compiler
  | conversation
  deriving DecidableEq, Repr

structure LogEntry where
  level : Level
  channel : Channel
  message : String
  deriving DecidableEq, Repr

/-! ### Handlers -/

/-- A decision function. -/
structure Decider where
  /-- The name under which consultations of this decider are noted, if they
      are noted at all. -/
  label : Option String := none
  /-- The reply to an input, or to none where a manager asks, in a state. -/
  reply : Option Value → Mapping → Except Fault Reply
  /-- What the decider writes to the log while it computes that reply. -/
  remarks : Option Value → Mapping → List LogEntry := fun _ _ => []

/-- Computes what is emitted from the state and the emitter's own payload;
    nothing is emitted if the result is empty. -/
abbrev Transform := Mapping → Option Payload → Except Fault (Option Payload)

namespace Transform

/-- Emit the payload as it is. -/
def identity : Transform := fun _ payload => .ok payload

/-- The text of a textual key's value. -/
def textOf? (state : Mapping) (name : String) : Option String :=
  (Mapping.find? state (.text name)).map Value.plain

/-- The text with its placeholders filled from the state. -/
def rendered (state : Mapping) (s : String) : String :=
  Template.render (textOf? state) s

/-- Fill the placeholders of the payload's text from the state, all of whose values have to be
    written for that. -/
def template : Transform := fun state payload =>
  match payload with
  | none => .ok none
  | some p =>
    match p.text? with
    | none => .error (.misuse .part)
    | some s =>
      if state.isWritable then .ok (some (p.withText (rendered state s)))
      else .error (.misuse .digits)

/-- Emit nothing unless the state satisfies the predicate. -/
def onlyWhen (predicate : Mapping → Except Fault Bool) (inner : Transform) : Transform :=
  fun state payload => do
    if ← predicate state then inner state payload else pure none

end Transform

end Parley

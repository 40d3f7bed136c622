import Parley.Config.Check
import Parley.Flow.Blueprint
import Parley.Registry

/-!
# From configuration to blueprint

A configuration without static defects becomes a blueprint: each node a leaf
and each flow a manager, the nodes first (`FlowFile.compile`). Handlers that the
configuration names come from a registry.

Output is rendered as a template unless another transform is named; what is
asked for is taken as it is.
-/

namespace Parley.Config

open Parley

/-- What a node merges: its fixed entries, then the input under its key. -/
def NodeConfig.patchFor (n : NodeConfig) (input : Value) : Mapping :=
  let fixed : Mapping := n.patch.map fun e => (.text e.1, e.2)
  match n.store with
  | some key => fixed.insert (.text key) input
  | none => fixed

/-- Where a branch goes in a state: the value that it looks at has to be written. -/
def BranchConfig.choose (b : BranchConfig) (state : Mapping) : Except Misuse (Option String) := do
  pure ((lookup (← (state.get b.key).display) b.cases).or b.default)

/-- Where a node goes: the state is that after its own patch. -/
def NodeConfig.route (n : NodeConfig) (state : Mapping) : Except Misuse (Option String) :=
  match n.branch with
  | some b => b.choose state
  | none => .ok n.next

/-- A name, or null. -/
def nameOrNull : Option String → Value
  | some s => .text s
  | none => .null

/-- The decision of a node that routes as its configuration says. -/
def NodeConfig.decision (n : NodeConfig) (input : Value) (state : Mapping) :
    Except Misuse Decision := do
  let patch := n.patchFor input
  pure ⟨nameOrNull (← n.route (state.merge patch)), Decision.patchOf patch⟩

/-- What is logged about the branch of a node, if it can be taken. -/
def NodeConfig.remarks (n : NodeConfig) (name : String) (input : Value) (state : Mapping) :
    List LogEntry :=
  match n.branch with
  | none => []
  | some b =>
    let after := state.merge (n.patchFor input)
    match b.choose after, (after.get b.key).literal with
    | .ok target, .ok value =>
      let words := target.getD "None"
      [⟨.debug, .compiler, s!"Node '{name}' branch on {b.key}={value} -> {words}"⟩]
    | _, _ => []

/-- The decider of a node that routes as its configuration says. -/
def NodeConfig.declared (n : NodeConfig) (name : String) : Decider where
  reply input state := ((n.decision (input.getD .null) state).map .decision).mapError .misuse
  remarks input state := n.remarks name (input.getD .null) state

/-- The decider of a node. -/
def NodeConfig.decider (n : NodeConfig) (name : String) (handlers : Handlers) :
    Except Fault Decider :=
  match n.decide with
  | some handler => handlers.decider handler
  | none => .ok (n.declared name)

/-- The decider of a flow, if it has one. -/
def FlowConfig.decider (f : FlowConfig) (handlers : Handlers) : Except Fault (Option Decider) :=
  match f.decide, f.next with
  | some handler, _ => some <$> handlers.decider handler
  | none, some target =>
    .ok (some { reply := fun _ _ => .ok (.decision (.goto (.text target) [])) })
  | none, none => .ok none

/-- The transform of a name, or the usual one if none or the empty name is
    given. -/
def transformOf (handlers : Handlers) (usual : Transform) : Option String → Except Fault Transform
  | none => .ok usual
  | some name => if name.isEmpty then .ok usual else handlers.transform name

/-- An emitter, if there is a payload or a transform to make one. -/
def emitter (handlers : Handlers) (usual : Transform) (payload : Option Payload)
    (name : Option String) : Except Fault (Option Emitter) :=
  if payload.isSome || name.isSome then
    return some ⟨payload, ← transformOf handlers usual name⟩
  else return none

/-- The definition of a node. -/
def NodeConfig.definition (n : NodeConfig) (name : String) (handlers : Handlers) :
    Except Fault Definition := do
  let output ← emitter handlers .template n.output n.outputTransform
  let expectation ← emitter handlers .identity n.expectation n.expectationTransform
  let decider ← n.decider name handlers
  pure (.leaf name decider output expectation)

/-- The definition of a flow. -/
def FlowConfig.definition (f : FlowConfig) (name : String) (handlers : Handlers) :
    Except Fault Definition := do
  pure (.manager name f.nodes f.root (← f.decider handlers) f.description)

/-- The definitions of the nodes and of the flows, checked from the root down. -/
def FlowFile.assemble (c : FlowFile) (handlers : Handlers) : Except Fault Blueprint := do
  let withNodes ← c.nodes.foldlM
    (fun b e => do b.register (← e.2.definition e.1 handlers)) Blueprint.empty
  let whole ← c.flows.foldlM
    (fun b e => do b.register (← e.2.definition e.1 handlers)) withNodes
  whole.validate c.root
  pure whole

/-- The blueprint of a configuration without static defects. -/
def FlowFile.compile (c : FlowFile) (handlers : Handlers) : Except Fault Blueprint :=
  if c.defects.isEmpty then c.assemble handlers
  else .error (.configuration (.defects c.defects))

end Parley.Config

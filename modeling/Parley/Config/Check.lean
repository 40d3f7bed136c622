import Parley.Config.Schema
import Parley.Fault

/-!
# Static checks

What can be told to be wrong with a configuration without running it
(`FlowFile.defects`): names defined twice or not at all, and routes that lead out
of the flow they start in. Decision functions are opaque, so only the routes
that are given as data are checked.

A flow that names a next flow has to be the sibling of it in every flow that
lists it.
-/

namespace Parley.Config.FlowFile

/-- The names of the nodes. -/
def nodeNames (c : FlowFile) : List String :=
  c.nodes.map Prod.fst

/-- The names of the flows. -/
def flowNames (c : FlowFile) : List String :=
  c.flows.map Prod.fst

/-- The name is that of a node or of a flow. -/
def isDefined (c : FlowFile) (name : String) : Bool :=
  c.nodeNames.contains name || c.flowNames.contains name

/-- The names that are both, in the order of their characters. -/
def ambiguous (c : FlowFile) : List String :=
  (c.nodeNames.filter c.flowNames.contains).mergeSort fun a b => !(b < a)

/-- The flows that list a child, each as often as it lists it. -/
def owners (c : FlowFile) (child : String) : List (String × FlowConfig) :=
  c.flows.flatMap fun e => (e.2.nodes.filter (· = child)).map fun _ => e

/-- The children of a flow that are not defined. -/
def unknownChildren (c : FlowFile) (name : String) (f : FlowConfig) : List Defect :=
  (f.nodes.filter fun child => !c.isDefined child).map (.unknownChild name)

/-- The names outside a flow that a child of it may route to. -/
def strayTargets (c : FlowFile) (f : FlowConfig) (child : String) : List String :=
  match lookup child c.nodes with
  | some n => n.targets.filter fun target => !f.nodes.contains target
  | none => []

/-- The routes of a flow's nodes that lead out of the flow. -/
def strayRoutes (c : FlowFile) (name : String) (f : FlowConfig) : List Defect :=
  f.nodes.flatMap fun child =>
    (c.strayTargets f child).map fun target => .strayTarget child target name

/-- What is wrong with where a flow goes next. -/
def strayNext (c : FlowFile) (name : String) (f : FlowConfig) : List Defect :=
  match f.next with
  | none => []
  | some target =>
    let owners := c.owners name
    if owners.isEmpty then [.orphan name target]
    else (owners.filter fun o => !o.2.nodes.contains target).map fun o =>
      .notASibling name target o.1

/-- All static defects, in the order in which they are reported. -/
def defects (c : FlowFile) : List Defect :=
  c.ambiguous.map .ambiguous
    ++ (if c.flowNames.contains c.root then [] else [.rootUndefined c.root])
    ++ (c.flows.flatMap fun e => c.unknownChildren e.1 e.2 ++ c.strayRoutes e.1 e.2)
    ++ c.flows.flatMap fun e => c.strayNext e.1 e.2

end Parley.Config.FlowFile

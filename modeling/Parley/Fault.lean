import Parley.Value.Misuse

/-!
# Faults

Everything that can go wrong between the definition of a flow and the end of
a conversation, as causes. A fault of configuration lies in the flow, a fault
of protocol with the caller who drives it, and a misuse with a value that a
decision, a transform or a file supplied. `Fault.message` words the causes that
are reported in words.
-/

namespace Parley

/-- A static defect of a flow configuration. -/
inductive Defect where
  /-- One name is defined as a node and as a flow. -/
  | ambiguous (name : String)
  | rootUndefined (root : String)
  | unknownChild (flow child : String)
  /-- A node routes to a name that is not in one of its flows. -/
  | strayTarget (node target flow : String)
  /-- A flow names a next flow but is in no flow itself. -/
  | orphan (flow target : String)
  | notASibling (flow target owner : String)
  deriving DecidableEq, Repr

def Defect.message : Defect → String
  | .ambiguous name => s!"'{name}' is defined both as a node and as a flow"
  | .rootUndefined root => s!"Root flow '{root}' is not defined under 'flows'"
  | .unknownChild flow child => s!"Flow '{flow}' references unknown node '{child}'"
  | .strayTarget node target flow =>
    s!"Node '{node}' routes to '{target}', which is not in flow '{flow}'"
  | .orphan flow target => s!"Flow '{flow}' routes to '{target}' but has no parent flow"
  | .notASibling flow target owner =>
    s!"Flow '{flow}' routes to '{target}', which is not a sibling in flow '{owner}'"

/-- A flow, or a decision taken in it, is malformed. -/
inductive ConfigurationFault where
  | noNodes (manager : String)
  /-- The root of a manager is not among the children it is given. -/
  | rootNotGiven (manager root : String) (children : List String)
  /-- The root of a manager's definition is not among its children. -/
  | rootNotListed (manager root : String)
  | unknownNode (manager node : String)
  | routedOutside (manager target : String)
  | noFrontEnd (manager : String)
  | unsupportedReply (reply : String)
  | duplicateName (name : String)
  | unknownElement (name : String)
  | leafAsRoot (name : String)
  | cycle (path : List String)
  | defects (found : List Defect)
  | unknownDecision (name : String)
  | unknownTransform (name : String)
  /-- A handler reports the fault in words of its own. -/
  | stated (message : String)

def ConfigurationFault.message : ConfigurationFault → String
  | .noNodes manager => s!"Manager '{manager}' has no nodes"
  | .rootNotGiven manager root children =>
    s!"Root node '{root}' of manager '{manager}' is not one of: " ++ ", ".intercalate children
  | .rootNotListed manager root =>
    s!"Root node '{root}' of manager '{manager}' is not one of its nodes"
  | .unknownNode manager node => s!"Unknown node '{node}' in manager '{manager}'"
  | .routedOutside manager target =>
    s!"Manager '{manager}' routed to '{target}' but has no parent"
  | .noFrontEnd manager => s!"Outermost manager '{manager}' has no front end"
  | .unsupportedReply reply => s!"Decision function returned unsupported value: {reply}"
  | .duplicateName name => s!"Duplicate flow element name: '{name}'"
  | .unknownElement name => s!"Unknown flow element: '{name}'"
  | .leafAsRoot name => s!"Outermost element '{name}' must be a manager"
  | .cycle path => "Manager cycle detected: " ++ " -> ".intercalate path
  | .defects found =>
    "Invalid flow configuration:\n  - " ++ "\n  - ".intercalate (found.map Defect.message)
  | .unknownDecision name => s!"Unknown decision function: {name}"
  | .unknownTransform name => s!"Unknown transform: {name}"
  | .stated message => message

/-- What an emitter emits. -/
inductive EmitterKind where
  | output
  | expectation
  deriving DecidableEq, Repr

def EmitterKind.name : EmitterKind → String
  | .output => "Output"
  | .expectation => "Expectation"

/-- The caller drives a flow out of turn. -/
inductive ProtocolFault where
  | leafUnassigned (node : String)
  | emitterUnassigned (kind : EmitterKind)
  | noCurrentNode (manager : String)
  | alreadyEnded (manager : String)
  | inputAfterEnd
  | inputUnexpected
  | inputBeforeStart
  | alreadyStarted (conversation : String)
  | nestedManager (manager : String)
  /-- A handler reports the fault in words of its own. -/
  | stated (message : String)

def ProtocolFault.message : ProtocolFault → String
  | .leafUnassigned node => s!"Node '{node}' used before being assigned"
  | .emitterUnassigned kind => kind.name ++ " executed before being assigned"
  | .noCurrentNode manager => s!"Manager '{manager}' has no current node"
  | .alreadyEnded manager => s!"Session of manager '{manager}' has already ended"
  | .inputAfterEnd => "Input delivered after the session ended"
  | .inputUnexpected => "Input delivered while no expectation is pending"
  | .inputBeforeStart => "Input delivered before the conversation started"
  | .alreadyStarted conversation => s!"Conversation {conversation} already started"
  | .nestedManager manager =>
    s!"Manager '{manager}' is nested and cannot drive a conversation"
  | .stated message => message

/-- Why a step of a flow fails. -/
inductive Fault where
  | configuration (cause : ConfigurationFault)
  | protocol (cause : ProtocolFault)
  | misuse (cause : Misuse)
  /-- A handler gives up, in words of its own. -/
  | handler (message : String)
  /-- The flow went on without asking anything for as long as it was watched. -/
  | endless

/-- The wording of a fault, if it is reported in words. -/
def Fault.message? : Fault → Option String
  | .configuration cause => some cause.message
  | .protocol cause => some cause.message
  | .misuse cause => cause.message?
  | .handler message => some message
  | .endless => none

end Parley

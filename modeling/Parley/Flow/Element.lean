import Parley.Handler

/-!
# Flow elements

A flow is a tree. Its leaves show something, ask something or both, and then
decide where to go; its managers hold named children and a cursor at one of
them. To its holder a manager looks like a leaf, so flows nest to any depth.

An element is `free` until its holder attaches it, which happens each time the
holder's cursor is set on it: from then on it reports to its holder. Attaching
goes down along the cursors (`Element.attach`), so the elements from the
outermost manager down to the active leaf report to one another in a chain.

An element is found by its *address*: the keys on the way to it, the innermost
first, so that the address of its holder is the tail.
-/

namespace Parley

/-- Where a leaf is in its life. -/
inductive Status where
  | idle
  | assigned
  | executing
  | awaitingInput
  | resolved
  deriving DecidableEq, Repr

def Status.name : Status → String
  | .idle => "idle"
  | .assigned => "assigned"
  | .executing => "executing"
  | .awaitingInput => "awaiting_input"
  | .resolved => "resolved"

/-- What an element reports to. -/
inductive Link where
  /-- Nothing: the element is outermost, or not in use yet. -/
  | free
  /-- The manager that holds it. -/
  | holder
  /-- An outside recorder in the place of a manager. -/
  | recorder
  deriving DecidableEq, Repr

/-- A payload with the transform that is applied right before it is emitted. -/
structure Emitter where
  payload : Option Payload
  transform : Transform

/-- What the outside is told, and what it tells. -/
inductive Event where
  | output (payload : Payload)
  | expectation (payload : Payload)
  | input (value : Value)
  | ended

/-- The outside that shows output and collects input. -/
structure FrontEnd where
  /-- It keeps the inputs delivered to the conversation among its events. -/
  keepsInputs : Bool
  /-- The fault with which it refuses an event, if it does. -/
  refusal : Event → Option Fault

/-- Keeps all events and refuses none. -/
def FrontEnd.recording : FrontEnd := ⟨true, fun _ => none⟩

/-- Shows all events, refuses none and keeps no inputs. -/
def FrontEnd.plain : FrontEnd := ⟨false, fun _ => none⟩

/-- A leaf of a flow. -/
structure Leaf where
  name : String
  decider : Decider
  output : Option Emitter
  expectation : Option Emitter
  link : Link
  status : Status

/-- A manager without its children. The last four fields matter on the
    outermost manager only, which owns the session. -/
structure Manager where
  name : String
  root : String
  /-- Asked when the traversal of the children is over; without it the manager
      finishes. -/
  decider : Option Decider
  link : Link
  cursor : Option String
  state : Mapping
  awaiting : Bool
  finished : Bool
  frontEnd : Option FrontEnd

/-- A leaf, or a manager with its children by key. -/
inductive Element where
  | leaf (l : Leaf)
  | manager (m : Manager) (children : List (String × Element))

/-- The keys from an element up to the top, the innermost first. -/
abbrev Address := List String

namespace Leaf

/-- A leaf that is not in use yet. -/
def idle (name : String) (decider : Decider) (output expectation : Option Emitter) : Leaf :=
  ⟨name, decider, output, expectation, .free, .idle⟩

def literal (l : Leaf) : String :=
  "Node(name=" ++ Text.quote l.name ++ ", status=" ++ l.status.name ++ ")"

end Leaf

namespace Manager

/-- A manager that is not in use yet, its cursor at the root. -/
def idle (name root : String) (decider : Option Decider) : Manager :=
  ⟨name, root, decider, .free, some root, [], false, false, none⟩

def isOutermost (m : Manager) : Bool :=
  m.link = .free

end Manager

namespace Element

def link : Element → Link
  | .leaf l => l.link
  | .manager m _ => m.link

def name : Element → String
  | .leaf l => l.name
  | .manager m _ => m.name

def children : Element → List (String × Element)
  | .leaf _ => []
  | .manager _ cs => cs

/-- The element of a key among children. -/
def lookup (key : String) (cs : List (String × Element)) : Option Element :=
  (cs.find? fun c => c.1 = key).map Prod.snd

/-- Changes the element of a key among children. -/
def update (f : Element → Element) (key : String) :
    List (String × Element) → List (String × Element)
  | [] => []
  | c :: cs => if c.1 = key then (c.1, f c.2) :: cs else c :: update f key cs

/-- Sets the element of a key, in its place if the key is there. -/
def put (key : String) (e : Element) (cs : List (String × Element)) : List (String × Element) :=
  if cs.any fun c => c.1 = key then update (fun _ => e) key cs else cs ++ [(key, e)]

/-- Changes a manager and leaves its children as they are. -/
def mapManager (f : Manager → Manager) : Element → Element
  | .manager m cs => .manager (f m) cs
  | e => e

/-- Changes a leaf. -/
def mapLeaf (f : Leaf → Leaf) : Element → Element
  | .leaf l => .leaf (f l)
  | e => e

/-- Changes the child of a key. -/
def updateChild (f : Element → Element) (key : String) : Element → Element
  | .leaf l => .leaf l
  | .manager m cs => .manager m (update f key cs)

/-- The element at an address below this one. -/
def at? (e : Element) : Address → Option Element
  | [] => some e
  | key :: a => (e.at? a).bind fun holder => lookup key holder.children

/-- Changes the element at an address below this one. -/
def modifyAt (e : Element) (f : Element → Element) : Address → Element
  | [] => f e
  | key :: a => e.modifyAt (updateChild f key) a

/-- A manager over children given by key; of two children with one key the
    later one stays. -/
def ofChildren (name : String) (children : List (String × Element)) (root : String)
    (decider : Option Decider) : Except Fault Element :=
  let cs := children.foldl (fun acc c => put c.1 c.2 acc) []
  if cs.isEmpty then .error (.configuration (.noNodes name))
  else if cs.any fun c => c.1 = root then .ok (.manager (.idle name root decider) cs)
  else .error (.configuration (.rootNotGiven name root (cs.map Prod.fst)))

mutual

/-- Makes an element report to what `link` says, and then the child at its
    cursor to it, and so on down. A cursor that is on no child stops this and
    is the fault, but what has been attached stays so. -/
def attach (link : Link) : Element → Element × Option Fault
  | .leaf l => (.leaf { l with link := link, status := .assigned }, none)
  | .manager m cs =>
    let m := { m with link := link }
    match m.cursor with
    | none => (.manager m cs, some (.protocol (.noCurrentNode m.name)))
    | some key =>
      let r := attachChild m.name key cs
      (.manager m r.1, r.2)

/-- Attaches the child of a key to its holder. -/
def attachChild (holder key : String) :
    List (String × Element) → List (String × Element) × Option Fault
  | [] => ([], some (.configuration (.unknownNode holder key)))
  | (k, e) :: cs =>
    if k = key then
      let r := attach .holder e
      ((k, r.1) :: cs, r.2)
    else
      let r := attachChild holder key cs
      ((k, e) :: r.1, r.2)

end

mutual

/-- The cursors from here down to the active leaf. -/
def activePath : Element → List String
  | .leaf _ => []
  | .manager m cs =>
    match m.cursor with
    | none => []
    | some key => key :: activeBelow key cs

/-- The cursors below the child of a key. -/
def activeBelow (key : String) : List (String × Element) → List String
  | [] => []
  | (k, e) :: cs => if k = key then activePath e else activeBelow key cs

end

/-- The element in words. -/
def literal : Element → String
  | .leaf l => l.literal
  | .manager m cs =>
    "FlowManager(name=" ++ Text.quote m.name ++ ", current="
      ++ ((m.cursor.map Text.quote).getD "None") ++ ", nodes=["
      ++ ", ".intercalate (cs.map fun c => Text.quote c.1) ++ "])"

end Element

end Parley

import Parley.Flow.Element

/-!
# The traversal of a flow

What happens between an input and the next question, as a machine. Its state
is a `Scene`: the tree, and everything that has been told to the outside so
far. Its control is a `Task`: an element is executed, an input is handed down
to a leaf, a manager moves to another child, or a manager closes because the
traversal of its children is over. One `step` performs a task and names the
next one, if any; a leaf that asks something names none, and so does a manager
that ends the session.

Reports go up. What an element emits, reads or merges goes from holder to
holder to the outermost manager (`Scene.owner`), which alone talks to the
front end and holds the state. A recorder in the place of a holder takes every
report itself.

`run` performs tasks until none is left. A flow can go on without end when its
leaves ask nothing, so `run` is told how many tasks to perform at most, and
`Fault.endless` says that they were too few.
-/

namespace Parley

/-- What is reported to a recorder. -/
inductive Report where
  | output (payload : Option Payload)
  | expectation (payload : Option Payload)
  | merge (patch : Value)
  | move (target : Value)
  | ended

/-- Stands in for a manager: it has a state of its own and otherwise keeps what
    is reported to it. -/
structure Recorder where
  state : Mapping
  reports : List Report

/-- A consultation of a decider. -/
structure Call where
  /-- The name of the element that decides. -/
  element : String
  /-- The decider's own label. -/
  label : Option String
  /-- The input of a leaf; a manager has none. -/
  input : Option Value
  /-- The shared state at that time. -/
  state : Mapping

/-- A flow and what has come of it. -/
structure Scene where
  top : Element
  recorder : Recorder
  events : List Event
  calls : List Call
  log : List LogEntry

/-- A scene in which nothing has happened. -/
def Scene.ofElement (top : Element) : Scene :=
  ⟨top, ⟨[], []⟩, [], [], []⟩

/-- What is to be done next. -/
inductive Task where
  | execute (element : Address)
  /-- Hand an input down to the active leaf. -/
  | input (element : Address) (value : Value)
  | move (manager : Address) (target : Value)
  /-- The traversal of the manager's children is over. -/
  | close (manager : Address)

/-- Who takes the reports of an element. -/
inductive Superior where
  | manager (address : Address)
  | recorder
  deriving DecidableEq, Repr

/-- A step in a scene: it changes the scene and may fail, and what it changed
    before it failed stays changed. -/
abbrev Act := ExceptT Fault (StateM Scene)

namespace Scene

/-- Who takes the reports of the element at an address, if it is attached. -/
def superior (s : Scene) (a : Address) : Option Superior :=
  match (s.top.at? a).map Element.link with
  | some .holder => match a with
    | [] => none
    | _ :: holder => some (.manager holder)
  | some .recorder => some .recorder
  | _ => none

/-- Where reports to the manager at an address end: at the outermost of the
    managers that hold each other, or at a recorder. -/
def ownerOf (s : Scene) : Address → Superior
  | [] => (s.superior []).getD (.manager [])
  | key :: a =>
    match s.superior (key :: a) with
    | some (.manager _) => s.ownerOf a
    | some .recorder => .recorder
    | none => .manager (key :: a)

/-- Where reports to a superior end. -/
def owner (s : Scene) : Superior → Superior
  | .recorder => .recorder
  | .manager a => s.ownerOf a

/-- The manager at an address. -/
def manager? (s : Scene) (a : Address) : Option Manager :=
  match s.top.at? a with
  | some (.manager m _) => some m
  | _ => none

/-- The shared state as seen by what reports to a superior. -/
def stateFor (s : Scene) (up : Superior) : Mapping :=
  match s.owner up with
  | .recorder => s.recorder.state
  | .manager a => ((s.manager? a).map Manager.state).getD []

/-- Changes the manager at an address. -/
def modifyManager (s : Scene) (a : Address) (f : Manager → Manager) : Scene :=
  { s with top := s.top.modifyAt (.mapManager f) a }

/-- Changes the leaf at an address. -/
def modifyLeaf (s : Scene) (a : Address) (f : Leaf → Leaf) : Scene :=
  { s with top := s.top.modifyAt (.mapLeaf f) a }

/-- Adds a report to those of the recorder. -/
def record (s : Scene) (r : Report) : Scene :=
  { s with recorder := { s.recorder with reports := s.recorder.reports ++ [r] } }

end Scene

namespace Act

def write (level : Level) (channel : Channel) (message : String) : Act Unit :=
  modify fun s => { s with log := s.log ++ [⟨level, channel, message⟩] }

/-- Fails with a misuse where there is one. -/
def orMisuse {α : Type} : Except Misuse α → Act α
  | .ok x => pure x
  | .error cause => throw (.misuse cause)

def orFault {α : Type} : Except Fault α → Act α
  | .ok x => pure x
  | .error cause => throw cause

/-- Tells the front end of the manager at an address. -/
def tell (a : Address) (e : Event) : Act Unit := do
  let some m := (← get).manager? a | pure ()
  match m.frontEnd with
  | none => throw (.configuration (.noFrontEnd m.name))
  | some frontEnd =>
    match frontEnd.refusal e with
    | some cause => throw cause
    | none => modify fun s => { s with events := s.events ++ [e] }

/-- Takes an output up to the owner of the session. An empty one is dropped. -/
def emitOutput (up : Superior) (payload : Option Payload) : Act Unit := do
  match (← get).owner up with
  | .recorder => modify fun s => s.record (.output payload)
  | .manager a =>
    match payload with
    | none => write .debug .manager "Empty output dropped"
    | some p => tell a (.output p)

/-- Takes an expectation up to the owner of the session, which waits for input
    from then on, even if there is nothing to ask. -/
def emitExpectation (up : Superior) (payload : Option Payload) : Act Unit := do
  match (← get).owner up with
  | .recorder => modify fun s => s.record (.expectation payload)
  | .manager a =>
    modify fun s => s.modifyManager a fun m => { m with awaiting := true }
    match payload with
    | none =>
      write .warning .manager "Empty expectation: waiting for input without asking the front end"
    | some p => tell a (.expectation p)

/-- Computes what an emitter emits and takes it up. -/
def emit (up : Superior) (kind : EmitterKind) (e : Emitter) : Act Unit := do
  let payload ← orFault (e.transform ((← get).stateFor up) e.payload)
  if payload.isNone then
    write .debug .emitter (kind.name ++ " transform suppressed emission")
  match kind with
  | .output => emitOutput up payload
  | .expectation => emitExpectation up payload

/-- Merges a patch into the state of the owner. -/
def merge (up : Superior) (patch : Value) : Act Unit := do
  match (← get).owner up with
  | .recorder =>
    modify fun s => s.record (.merge patch)
    let merged ← orMisuse ((← get).recorder.state.mergeValue patch)
    modify fun s => { s with recorder := { s.recorder with state := merged } }
  | .manager a =>
    let merged ← orMisuse (((← get).stateFor up).mergeValue patch)
    modify fun s => s.modifyManager a fun m => { m with state := merged }
    let keys ← orMisuse merged.keysLiteral
    write .debug .manager ("State keys after merge: " ++ keys)

/-- Consults a decider. -/
def consult (element : String) (d : Decider) (input : Option Value) (state : Mapping) :
    Act Decision := do
  modify fun s =>
    { s with
      calls := s.calls ++ [⟨element, d.label, input, state⟩]
      log := s.log ++ d.remarks input state }
  let reply ← orFault (d.reply input state)
  orFault reply.decision?

/-- Merges what a decision hands over, if it hands over anything. -/
def mergePatch (up : Superior) (d : Decision) : Act Unit := do
  if d.patch.isTruthy then merge up d.patch

/-- Reports to a superior that it should move to a child. -/
def reportMove (up : Superior) (target : Value) : Act (Option Task) := do
  match up with
  | .recorder => modify fun s => s.record (.move target); pure none
  | .manager a => pure (some (.move a target))

/-- Reports to a superior that a traversal is over. -/
def reportEnd (up : Superior) : Act (Option Task) := do
  match up with
  | .recorder => modify fun s => s.record .ended; pure none
  | .manager a => pure (some (.close a))

/-- The key of a manager's current child. -/
def currentKey (m : Manager) (children : List (String × Element)) : Act String := do
  match m.cursor with
  | none => throw (.protocol (.noCurrentNode m.name))
  | some key =>
    if children.any fun c => c.1 = key then pure key
    else throw (.configuration (.unknownNode m.name key))

/-! ### The four tasks -/

/-- A leaf shows its output, if it has one. -/
def showOutput (up : Superior) (l : Leaf) : Act Unit :=
  match l.output with
  | some e => emit up .output e
  | none => pure ()

/-- A leaf asks for what it expects, or passes on with an empty input. -/
def askInput (up : Superior) (a : Address) (l : Leaf) : Act (Option Task) :=
  match l.expectation with
  | some e => do
    modify fun s => s.modifyLeaf a fun l => { l with status := .awaitingInput }
    emit up .expectation e
    pure none
  | none => pure (some (.input a .null))

def executeLeaf (a : Address) (l : Leaf) : Act (Option Task) := do
  let some up := (← get).superior a | throw (.protocol (.leafUnassigned l.name))
  modify fun s => s.modifyLeaf a fun l => { l with status := .executing }
  write .debug .node s!"Executing node '{l.name}'"
  showOutput up l
  askInput up a l

def executeManager (a : Address) (m : Manager) (children : List (String × Element)) :
    Act (Option Task) := do
  if m.isOutermost && m.finished then throw (.protocol (.alreadyEnded m.name))
  let key ← currentKey m children
  pure (some (.execute (key :: a)))

def inputLeaf (a : Address) (l : Leaf) (v : Value) : Act (Option Task) := do
  let some up := (← get).superior a | throw (.protocol (.leafUnassigned l.name))
  let d ← consult l.name l.decider (some v) ((← get).stateFor up)
  mergePatch up d
  modify fun s => s.modifyLeaf a fun l => { l with status := .resolved }
  if d.finishes then
    write .debug .node s!"Node '{l.name}' finished its manager's traversal"
    reportEnd up
  else
    let target ← orMisuse d.next.display
    write .debug .node s!"Node '{l.name}' -> '{target}'"
    reportMove up d.next

/-- The outermost manager takes an input only while it waits for one, and stops
    waiting before the input is handed down. -/
def inputManager (a : Address) (m : Manager) (children : List (String × Element)) (v : Value) :
    Act (Option Task) := do
  if m.isOutermost then
    if m.finished then throw (.protocol .inputAfterEnd)
    unless m.awaiting do throw (.protocol .inputUnexpected)
    modify fun s => s.modifyManager a fun m => { m with awaiting := false }
  let key ← currentKey m children
  pure (some (.input (key :: a) v))

/-- A manager holds no children but those of textual keys. -/
def refuseTarget (m : Manager) (target : Value) : Act String :=
  if target.isKey then do
    let name ← orMisuse target.display
    throw (.configuration (.unknownNode m.name name))
  else throw (.misuse .kind)

/-- The child that a decision names. -/
def targetKey (m : Manager) (children : List (String × Element)) (target : Value) :
    Act String :=
  match target with
  | .text key =>
    if children.any fun c => c.1 = key then pure key
    else throw (.configuration (.unknownNode m.name key))
  | v => refuseTarget m v

/-- The element at an address, attached to what `link` says. -/
def attachAt (a : Address) (link : Link) : Act Unit := do
  let some e := (← get).top.at? a | pure ()
  let r := e.attach link
  modify fun s => { s with top := s.top.modifyAt (fun _ => r.1) a }
  if let some cause := r.2 then throw cause

def moveManager (a : Address) (m : Manager) (children : List (String × Element))
    (target : Value) : Act (Option Task) := do
  let key ← targetKey m children target
  let current := m.cursor.getD "None"
  write .debug .manager s!"Manager '{m.name}': '{current}' -> '{key}'"
  modify fun s => s.modifyManager a fun m => { m with cursor := some key }
  attachAt (key :: a) .holder
  pure (some (.execute a))

/-- Where a manager goes when it closes; without a decider it finishes. -/
def decideClose (a : Address) (m : Manager) : Act Decision := do
  match m.decider with
  | none => pure ⟨.null, .null⟩
  | some decider => consult m.name decider none ((← get).stateFor (.manager a))

/-- A manager goes back to its root when it leaves the scene. -/
def closeManager (a : Address) (m : Manager) : Act (Option Task) := do
  let d ← decideClose a m
  mergePatch (.manager a) d
  let rewind := modify fun s => s.modifyManager a fun m => { m with cursor := some m.root }
  match (← get).superior a with
  | none =>
    if d.finishes then
      write .info .manager s!"Session of manager '{m.name}' ended"
      modify fun s => s.modifyManager a fun m => { m with finished := true }
      tell a .ended
      pure none
    else
      let target ← orMisuse d.next.display
      throw (.configuration (.routedOutside m.name target))
  | some up =>
    if d.finishes then
      write .debug .manager s!"Manager '{m.name}' finished, deferring to its parent"
      rewind
      reportEnd up
    else
      let target ← orMisuse d.next.display
      write .debug .manager s!"Manager '{m.name}' routes to sibling '{target}'"
      rewind
      reportMove up d.next

end Act

open Act in
/-- Performs a task and names the next one. -/
def Task.step (t : Task) : Act (Option Task) := do
  let top := (← get).top
  match t with
  | .execute a =>
    match top.at? a with
    | some (.leaf l) => executeLeaf a l
    | some (.manager m cs) => executeManager a m cs
    | none => pure none
  | .input a v =>
    match top.at? a with
    | some (.leaf l) => inputLeaf a l v
    | some (.manager m cs) => inputManager a m cs v
    | none => pure none
  | .move a target =>
    match top.at? a with
    | some (.manager m cs) => moveManager a m cs target
    | _ => pure none
  | .close a =>
    match top.at? a with
    | some (.manager m _) => closeManager a m
    | _ => pure none

/-- Performs a task and those that follow from it, `limit` at most. -/
def Task.run : (limit : Nat) → Task → Act Unit
  | 0, _ => throw .endless
  | limit + 1, t => do
    match ← t.step with
    | none => pure ()
    | some next => next.run limit

end Parley

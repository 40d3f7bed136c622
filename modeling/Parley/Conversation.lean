import Parley.Flow.Traversal
import Parley.Flow.Blueprint

/-!
# Conversations

A conversation drives one flow through its outermost manager. `start` runs the
flow up to its first question or to its end; each `deliver` hands over one
input and runs the flow to its next question or to its end. An input is
refused, and changes nothing, unless the conversation has started, has not
ended and waits for one.
-/

namespace Parley

structure Conversation where
  scene : Scene
  frontEnd : Option FrontEnd
  /-- The state that the flow starts with. -/
  initial : Mapping
  id : String
  started : Bool
  /-- The number of inputs accepted. -/
  turns : Nat

/-- A step of a conversation; what it changed before it failed stays changed. -/
abbrev Turn := ExceptT Fault (StateM Conversation)

namespace Conversation

/-- The outermost manager. -/
def root? (c : Conversation) : Option Manager :=
  c.scene.manager? []

def isFinished (c : Conversation) : Bool :=
  c.root?.any fun m => m.isOutermost && m.finished

def isAwaiting (c : Conversation) : Bool :=
  c.root?.any fun m => m.isOutermost && m.awaiting

/-- The shared state. -/
def state (c : Conversation) : Mapping :=
  c.scene.stateFor (.manager [])

def activePath (c : Conversation) : List String :=
  c.scene.top.activePath

/-- A conversation over a manager that nothing holds. -/
def begin? (scene : Scene) (frontEnd : Option FrontEnd) (state : Value) (id : String) :
    Except Fault Conversation :=
  match scene.top with
  | .leaf _ => .error (.misuse .part)
  | .manager m _ =>
    if m.isOutermost then
      match Mapping.ofValue state with
      | .ok initial => .ok ⟨scene, frontEnd, initial, id, false, 0⟩
      | .error cause => .error (.misuse cause)
    else .error (.protocol (.nestedManager m.name))

/-- A conversation over a tree that is built for it. -/
def ofBlueprint (b : Blueprint) (root : String) (frontEnd : Option FrontEnd) (state : Value)
    (id : String) : Except Fault Conversation := do
  let top ← b.build root frontEnd
  let built : LogEntry := ⟨.debug, .builder, s!"Built flow tree rooted at '{root}'"⟩
  begin? { Scene.ofElement top with log := [built] } frontEnd state id

end Conversation

namespace Turn

/-- Acts in the conversation's scene. -/
def within {α : Type} (act : Act α) : Turn α := fun c =>
  let r := act c.scene
  (r.1, { c with scene := r.2 })

def write (level : Level) (message : String) : Turn Unit :=
  within (Act.write level .conversation message)

/-- Hands the state and the front end to the flow and attaches the elements
    down to the active leaf. -/
def furnish : Turn Unit := do
  let c ← get
  within do
    modify fun s => s.modifyManager [] fun m =>
      { m with frontEnd := c.frontEnd, state := c.initial }
    Act.attachAt [] (c.scene.top.link)

/-- Prepares the flow for its first task, unless the conversation has started. -/
def opening : Turn Task := do
  let c ← get
  if c.started then throw (.protocol (.alreadyStarted c.id))
  set { c with started := true }
  furnish
  write .info s!"Conversation {c.id} started at '{c.scene.top.name}'"
  pure (.execute [])

/-- Runs the flow up to its first question or its end. -/
def start (limit : Nat) : Turn Unit := do
  within ((← opening).run limit)

/-- Takes an input in, unless it comes out of turn; the first task is to hand it
    down. -/
def acceptance (v : Value) : Turn Task := do
  let c ← get
  unless c.started do throw (.protocol .inputBeforeStart)
  if c.isFinished then throw (.protocol .inputAfterEnd)
  unless c.isAwaiting do throw (.protocol .inputUnexpected)
  if c.frontEnd.any FrontEnd.keepsInputs then
    within (modify fun s => { s with events := s.events ++ [.input v] })
  modify fun c => { c with turns := c.turns + 1 }
  let path := " > ".intercalate c.activePath
  write .debug s!"Turn {c.turns + 1} at {path}"
  pure (.input [] v)

/-- Hands over one input and runs the flow to its next question or to its end. -/
def deliver (limit : Nat) (v : Value) : Turn Unit := do
  within ((← acceptance v).run limit)
  let c ← get
  if c.isFinished then
    write .info s!"Conversation {c.id} ended after {c.turns} turns"

/-- Hands over inputs one after the other until the flow ends. -/
def deliverAll (limit : Nat) : List Value → Turn Unit
  | [] => pure ()
  | v :: vs => do
    if (← get).isFinished then pure ()
    else
      deliver limit v
      deliverAll limit vs

/-- Starts the flow unless it has started, and hands over inputs. -/
def run (limit : Nat) (inputs : List Value) : Turn Unit := do
  unless (← get).started do start limit
  deliverAll limit inputs

end Turn

end Parley

import Parley.Handler

/-!
# Handler registries

A registry knows decision functions and transforms by name, so that a flow file
can refer to them. Registering a name again replaces its handler. Two
transforms are there from the start: `identity` and `template`.
-/

namespace Parley

/-- Decision functions and transforms by name. -/
structure Registry (D T : Type) where
  deciders : List (String × D)
  transforms : List (String × T)

namespace Registry

variable {D T : Type}

/-- Sets the handler of a name, in its place if the name is taken. -/
def put {α : Type} (name : String) (handler : α) : List (String × α) → List (String × α)
  | [] => [(name, handler)]
  | e :: es => if e.1 = name then (name, handler) :: es else e :: put name handler es

/-- The handler of a name. -/
def lookup {α : Type} (name : String) (handlers : List (String × α)) : Option α :=
  (handlers.find? fun e => e.1 = name).map Prod.snd

/-- A registry that knows the two common transforms only. -/
def initial (identity template : T) : Registry D T :=
  ⟨[], [("identity", identity), ("template", template)]⟩

def registerDecider (r : Registry D T) (name : String) (d : D) : Registry D T :=
  { r with deciders := put name d r.deciders }

def registerTransform (r : Registry D T) (name : String) (t : T) : Registry D T :=
  { r with transforms := put name t r.transforms }

/-- Registers handlers one after the other. -/
def addAll (r : Registry D T) (deciders : List (String × D)) (transforms : List (String × T)) :
    Registry D T :=
  let r := deciders.foldl (fun r e => r.registerDecider e.1 e.2) r
  transforms.foldl (fun r e => r.registerTransform e.1 e.2) r

def decider (r : Registry D T) (name : String) : Except Fault D :=
  match lookup name r.deciders with
  | some d => .ok d
  | none => .error (.configuration (.unknownDecision name))

def transform (r : Registry D T) (name : String) : Except Fault T :=
  match lookup name r.transforms with
  | some t => .ok t
  | none => .error (.configuration (.unknownTransform name))

/-- The name is that of a handler of either kind. -/
def contains (r : Registry D T) (name : String) : Bool :=
  (lookup name r.deciders).isSome || (lookup name r.transforms).isSome

end Registry

/-- A registry of handlers that can be run. -/
abbrev Handlers := Registry Decider Transform

/-- Knows the common transforms only. -/
def Handlers.initial : Handlers :=
  Registry.initial .identity .template

end Parley

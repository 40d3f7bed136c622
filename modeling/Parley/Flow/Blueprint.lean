import Parley.Flow.Element

/-!
# Blueprints

A blueprint is a list of definitions with pairwise different names. A
definition of a manager mentions its children by name, so definitions can come
in any order, and one definition can be a child of several managers.

`Blueprint.build` unfolds the definitions below a root into a fresh tree, after
`Blueprint.validate` has checked all that it will meet: every name is defined,
every manager has children, its root among them, and no manager is below
itself. On a path without repetition there are at most as many managers as
definitions, which bounds the depth of both.
-/

namespace Parley

/-- What an element of a flow is made from. -/
inductive Definition where
  | leaf (name : String) (decider : Decider) (output expectation : Option Emitter)
  | manager (name : String) (children : List String) (root : String)
      (decider : Option Decider) (description : String)

def Definition.name : Definition → String
  | .leaf name .. => name
  | .manager name .. => name

/-- Definitions in the order of their registration. -/
structure Blueprint where
  definitions : List Definition

namespace Blueprint

def empty : Blueprint := ⟨[]⟩

def names (b : Blueprint) : List String :=
  b.definitions.map Definition.name

def contains (b : Blueprint) (name : String) : Bool :=
  b.names.contains name

def find? (b : Blueprint) (name : String) : Option Definition :=
  b.definitions.find? fun d => d.name = name

/-- Adds a definition under a name that is not taken. -/
def register (b : Blueprint) (d : Definition) : Except Fault Blueprint :=
  if b.contains d.name then .error (.configuration (.duplicateName d.name))
  else .ok ⟨b.definitions ++ [d]⟩

/-- The definition of a name. -/
def get (b : Blueprint) (name : String) : Except Fault Definition :=
  match b.find? name with
  | some d => .ok d
  | none => .error (.configuration (.unknownElement name))

/-- Checks a name and all that is below it, given the managers above it. -/
def check (b : Blueprint) : (depth : Nat) → (above : List String) → String → Except Fault Unit
  | 0, above, name => .error (.configuration (.cycle (above ++ [name])))
  | depth + 1, above, name => do
    if above.contains name then throw (.configuration (.cycle (above ++ [name])))
    match ← b.get name with
    | .leaf .. => pure ()
    | .manager _ children root _ _ =>
      if children.isEmpty then throw (.configuration (.noNodes name))
      unless children.contains root do throw (.configuration (.rootNotListed name root))
      children.forM (b.check depth (above ++ [name]))

/-- Checks that the tree below a root can be built. -/
def validate (b : Blueprint) (root : String) : Except Fault Unit := do
  match ← b.get root with
  | .leaf .. => throw (.configuration (.leafAsRoot root))
  | .manager .. => b.check (b.definitions.length + 1) [] root

/-- The tree below a name. A child that is listed twice is there once. -/
def unfold (b : Blueprint) : (depth : Nat) → String → Except Fault Element
  | 0, name => .error (.configuration (.cycle [name]))
  | depth + 1, name => do
    match ← b.get name with
    | .leaf name decider output expectation => pure (.leaf (.idle name decider output expectation))
    | .manager name children root decider _ =>
      let cs ← children.mapM fun child => do pure (child, ← b.unfold depth child)
      Element.ofChildren name cs root decider

/-- Hands a front end to an outermost manager. -/
def furnish (frontEnd : Option FrontEnd) : Element → Element
  | .leaf l => .leaf l
  | .manager m cs => .manager { m with frontEnd := frontEnd } cs

/-- A fresh tree below a root, checked before it is built. -/
def build (b : Blueprint) (root : String) (frontEnd : Option FrontEnd) : Except Fault Element := do
  b.validate root
  let e ← b.unfold (b.definitions.length + 1) root
  pure (furnish frontEnd e)

end Blueprint

end Parley

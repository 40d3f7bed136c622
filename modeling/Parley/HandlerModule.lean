import Parley.Examples.Quiz
import Parley.Registry

/-!
# Handler modules

A flow file names handlers; a module brings them along. Modules are known by
dotted names. The only one with handlers is that of the quiz; the packages it is
in can be named too, and bring none.
-/

namespace Parley

/-- Handlers with the names under which flow files refer to them. -/
structure HandlerModule where
  deciders : List (String × Decider)
  transforms : List (String × Transform)

/-- Why there is no module of a name. -/
inductive ModuleFault where
  | unnamed
  /-- The name begins with a point: it is relative to no package. -/
  | relative
  | unknown
  deriving DecidableEq, Repr

namespace HandlerModule

/-- The known modules. -/
def all : List (String × HandlerModule) :=
  [ ("examples", ⟨[], []⟩), ("examples.language_quiz", ⟨[], []⟩),
    ("examples.language_quiz.handlers", ⟨Examples.Quiz.deciders, Examples.Quiz.transforms⟩) ]

/-- The module of a name. -/
def find (name : String) : Except ModuleFault HandlerModule :=
  if name.isEmpty then .error .unnamed
  else if name.startsWith "." then .error .relative
  else
    match all.lookup name with
    | some m => .ok m
    | none => .error .unknown

/-- Adds the handlers of a module to a registry. -/
def addTo (m : HandlerModule) (handlers : Handlers) : Handlers :=
  handlers.addAll m.deciders m.transforms

end HandlerModule

end Parley

import Parley.Console.Arguments

/-!
# Commands

What the program is told to do: chat with the bundled quiz (`demo`), chat with
the flow of a file or folder (`run`), check such a flow (`validate`), or tell its
version. `Command.ofArguments` reads the command line.
-/

namespace Parley.Console

/-- How a chat is held. What is not given is up to the flow's own settings. -/
structure ChatOptions where
  logLevel : Option String
  logFile : Option String
  showState : Bool
  deriving DecidableEq, Repr

inductive Command where
  | version
  | help
  | demo (options : ChatOptions)
  | run (path : String) (module : Option String) (options : ChatOptions)
  | validate (path : String) (module : Option String)
  deriving DecidableEq, Repr

namespace Command

/-- The value of an option; an empty one counts for none. -/
def givenText (a : Arguments) (key : OptionKey) : Option String :=
  (a.value? key).filter fun s => !s.isEmpty

def chatOptions (a : Arguments) : ChatOptions :=
  ⟨givenText a .logLevel, givenText a .logFile, a.has .showState⟩

/-- Reads the arguments of a command by its name. -/
def ofNamed (name : String) (args : List String) : Option Command :=
  let read (known : List OptionKey) (build : Arguments → Option Command) : Option Command :=
    (Arguments.read (.help :: known) true args).bind fun a =>
      if a.has .help then some .help else build a
  match name with
  | "demo" =>
    read [.logLevel, .showState, .debug] fun a =>
      match a.positional with
      | [] => some (.demo (chatOptions a))
      | _ => none
  | "run" =>
    read [.module, .logLevel, .logFile, .showState, .debug] fun a =>
      match a.positional with
      | [path] => some (.run path (givenText a .module) (chatOptions a))
      | _ => none
  | "validate" =>
    read [.module] fun a =>
      match a.positional with
      | [path] => some (.validate path (givenText a .module))
      | _ => none
  | _ => none

/-- Reads the command line; none if it is not understood. -/
def ofArguments (args : List String) : Option Command :=
  (Arguments.read [.version, .help] false args).bind fun a =>
    match a.options, a.positional with
    | (.version, _) :: _, _ => some .version
    | _ :: _, _ => some .help
    | [], name :: rest => ofNamed name rest
    | [], [] => none

end Command

end Parley.Console

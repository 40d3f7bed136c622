/-!
# Arguments of the command line

The arguments of a command are options and positional arguments. A long option
is written `--name`, with a value `--name value` or `--name=value`; a short one
is written `-n`, with a value `-n value` or `-nvalue`, and short options without
values can share a dash. After `--` all arguments are positional.

Options may stand between positional arguments, unless the arguments are those
of the program itself: there the first positional argument is a command, and
what follows it belongs to the command.
-/

namespace Parley.Console

/-- The options of the program and its commands. -/
inductive OptionKey where
  | version
  | help
  | module
  | logLevel
  | logFile
  | showState
  | debug
  deriving DecidableEq, Repr

namespace OptionKey

def long : OptionKey → String
  | .version => "--version"
  | .help => "--help"
  | .module => "--module"
  | .logLevel => "--log-level"
  | .logFile => "--log-file"
  | .showState => "--show-state"
  | .debug => "--debug"

def short? : OptionKey → Option Char
  | .version => some 'v'
  | .module => some 'm'
  | .logLevel => some 'l'
  | .help | .logFile | .showState | .debug => none

def takesValue : OptionKey → Bool
  | .module | .logLevel | .logFile => true
  | .version | .help | .showState | .debug => false

end OptionKey

/-- The options that were given, in their order and those without a value with
    an empty one, and the positional arguments. -/
structure Arguments where
  options : List (OptionKey × String)
  positional : List String
  deriving DecidableEq, Repr

/-- What one argument gives: options, and maybe one more whose value is the next
    argument. -/
structure Given where
  options : List (OptionKey × String)
  wanting : Option OptionKey
  deriving DecidableEq, Repr

namespace Arguments

def has (a : Arguments) (key : OptionKey) : Bool :=
  a.options.any fun o => o.1 = key

/-- The value of an option, the last one if it is given more than once. -/
def value? (a : Arguments) (key : OptionKey) : Option String :=
  (a.options.reverse.find? fun o => o.1 = key).map Prod.snd

/-- Reads the options after one dash. -/
def readShort (known : List OptionKey) : List Char → Option Given
  | [] => some ⟨[], none⟩
  | c :: cs =>
    match known.find? fun key => key.short? = some c with
    | none => none
    | some key =>
      if key.takesValue then
        if cs.isEmpty then some ⟨[], some key⟩ else some ⟨[(key, String.ofList cs)], none⟩
      else (readShort known cs).map fun g => { g with options := (key, "") :: g.options }

/-- Reads a long option. -/
def readLong (key : OptionKey) (value : Option String) : Option Given :=
  match key.takesValue, value with
  | true, some v => some ⟨[(key, v)], none⟩
  | true, none => some ⟨[], some key⟩
  | false, some _ => none
  | false, none => some ⟨[(key, "")], none⟩

/-- Reads an argument that begins with a dash. -/
def readOption (known : List OptionKey) (arg : List Char) : Option Given :=
  let name := arg.takeWhile (· ≠ '=')
  let value := match arg.drop name.length with
    | _ :: cs => some (String.ofList cs)
    | [] => none
  match known.find? fun key => key.long.toList = name with
  | some key => readLong key value
  | none => if arg.take 2 = ['-', '-'] then none else readShort known (arg.drop 1)

/-- The argument is an option. -/
def isOption (arg : String) : Bool :=
  arg.startsWith "-" && arg.length ≠ 1

/-- Adds options in front. -/
def addOptions (options : List (OptionKey × String)) (a : Arguments) : Arguments :=
  { a with options := options ++ a.options }

/-- Reads arguments; `mixed` allows for options after positional arguments.
    Unknown options and missing or superfluous values are refused. -/
def read (known : List OptionKey) (mixed : Bool) : List String → Option Arguments
  | [] => some ⟨[], []⟩
  | arg :: rest =>
    if arg = "--" then some ⟨[], rest⟩
    else if isOption arg then
      match readOption known arg.toList with
      | none => none
      | some ⟨options, none⟩ => (read known mixed rest).map (addOptions options)
      | some ⟨options, some key⟩ =>
        match rest with
        | [] => none
        | value :: rest => (read known mixed rest).map (addOptions (options ++ [(key, value)]))
    else if mixed then
      (read known mixed rest).map fun a => { a with positional := arg :: a.positional }
    else some ⟨[], arg :: rest⟩

end Arguments

end Parley.Console

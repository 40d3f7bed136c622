import Parley.Files
import Parley.Value.Mapping

/-!
# Logging

Records of what a program does go to the console and, if a file is named, to
that file too, each with the name of its logger, its level, its message and the
fields of the logger's context. Records below the chosen level are dropped.

The level `NOTSET` chooses nothing: then the level of the root logger counts,
which is `WARNING`.
-/

namespace Parley.Logging

/-- How much a record matters. -/
inductive Severity where
  | notSet
  | debug
  | info
  | warning
  | error
  | critical
  deriving DecidableEq, Repr

namespace Severity

def name : Severity → String
  | .notSet => "NOTSET"
  | .debug => "DEBUG"
  | .info => "INFO"
  | .warning => "WARNING"
  | .error => "ERROR"
  | .critical => "CRITICAL"

def rank : Severity → Nat
  | .notSet => 0
  | .debug => 10
  | .info => 20
  | .warning => 30
  | .error => 40
  | .critical => 50

/-- The names under which a severity can be chosen. -/
def names : List (String × Severity) :=
  [ ("NOTSET", .notSet), ("DEBUG", .debug), ("INFO", .info), ("WARNING", .warning),
    ("WARN", .warning), ("ERROR", .error), ("CRITICAL", .critical), ("FATAL", .critical) ]

/-- The upper-case letter of a letter, as far as a name of a level goes: the
    dotless i and the long s have an ASCII letter for theirs. -/
def upper (c : Char) : Char :=
  if c = 'ı' then 'I' else if c = 'ſ' then 'S' else c.toUpper

/-- The severity that a name chooses, in any case of letters. -/
def ofName? (name : String) : Option Severity :=
  names.lookup (String.ofList (name.toList.map upper))

end Severity

/-- The handler that cannot be set up. -/
inductive SetupFault where
  | console
  | file
  deriving DecidableEq, Repr

def SetupFault.message : SetupFault → String
  | .console => "Unable to configure handler 'console'"
  | .file => "Unable to configure handler 'file'"

/-- Where records go. -/
structure Setup where
  level : Severity
  /-- Records are also written to a file. -/
  hasFile : Bool
  deriving DecidableEq, Repr

/-- The level of the root logger. -/
def rootLevel : Severity := .warning

/-- A file can be written at a path: it is in a folder that is there, and is not
    a folder itself. -/
def isWritable (fs : Files) (path : String) : Bool :=
  let place := fs.settled (Path.ofString path)
  fs.at? place ≠ some .folder && fs.at? place.dropLast = some .folder

/-- Sets up logging at the level of a name, to a file if one is named. -/
def setup (fs : Files) (level : String) (file : Option String) : Except SetupFault Setup :=
  match Severity.ofName? level with
  | none => .error .console
  | some severity =>
    match file with
    | none => .ok ⟨severity, false⟩
    | some path => if isWritable fs path then .ok ⟨severity, true⟩ else .error .file

/-- The least severity of a record that is kept. -/
def Setup.threshold (s : Setup) : Severity :=
  if s.level = .notSet then rootLevel else s.level

/-- A record of this severity is kept. -/
def Setup.keeps (s : Setup) (severity : Severity) : Bool :=
  s.threshold.rank ≤ severity.rank

/-- A line of the log file, without the time. -/
structure Record where
  logger : String
  severity : Severity
  message : String
  context : Mapping

/-- The names that a record gives to its own fields. -/
def ownFields : List String :=
  [ "name", "msg", "args", "levelname", "levelno", "pathname", "filename", "module", "exc_info",
    "exc_text", "stack_info", "lineno", "funcName", "created", "msecs", "relativeCreated",
    "thread", "threadName", "processName", "process", "message", "asctime" ]

/-- The fields of a context that are written to a file: those whose names begin
    with an underscore are not. -/
def written (context : Mapping) : Mapping :=
  context.filter fun e => match e.1 with
    | .text s => !s.startsWith "_"
    | _ => true

/-- Writes messages in a context, whose fields must not be a record's own. The
    result is what is added to the file. -/
def write (s : Setup) (logger : String) (context : Mapping) :
    List (Severity × String) → Except Misuse (List Record)
  | [] => .ok []
  | (severity, message) :: rest =>
    if s.keeps severity then
      if context.any fun e => ownFields.any fun name => e.1.sameKey (.text name) then .error .key
      else (write s logger context rest).map (⟨logger, severity, message, written context⟩ :: ·)
    else write s logger context rest

end Parley.Logging

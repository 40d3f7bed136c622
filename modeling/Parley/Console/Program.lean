import Parley.Config.Compile
import Parley.Config.Source
import Parley.Console.Chat
import Parley.Console.Command
import Parley.HandlerModule
import Parley.Logging

/-!
# The program

What the commands do. A check prints what is wrong with a flow, or an overview
of its managers (`validation`); a chat is opened (`openChat`) and then hears its
lines. Either comes to an `Outcome`: what is printed, the exit code, and the
cause if the program breaks down.

Faults of the flow, of its files and of the caller's turns are reported in a
panel, and so are misuses that have a wording. All other faults break the program
down, and so does whatever cannot be drawn while it is reported.

The program leaves to others how a text is read as a document, how it is worded
what is wrong with a document, and how all that it prints is drawn (`Services`).
-/

namespace Parley.Console

open Terminal (Screen)

/-- What the program makes use of. -/
structure Services where
  read : Config.Reader
  /-- The wording of what is wrong with a value. -/
  listing : Value → List Config.Issue → String
  screen : Screen

/-- The columns of the console. -/
def consoleWidth : Nat := 100

/-- YAML and a screen without colours; what is wrong with a value is listed by places and
    complaints only. -/
def Services.standard : Services where
  read := Yaml.read
  listing _ found := Config.Issue.listing Config.Model.config found
  screen := .ofWidth consoleWidth

/-- A fault that is not reported. -/
inductive Breakdown where
  | fault (cause : Fault)
  | source (cause : Config.SourceFault)
  | module (cause : ModuleFault)

/-- What comes of a command. -/
structure Outcome where
  printed : List Char
  exitCode : Nat
  breakdown : Option Breakdown

namespace Outcome

/-- Prints pages one after the other; one that cannot be printed is the end. -/
def ofPages (exitCode : Nat) : List (Except Misuse (List Char)) → Outcome
  | [] => ⟨[], exitCode, none⟩
  | .error cause :: _ => ⟨[], 1, some (.fault (.misuse cause))⟩
  | .ok cs :: rest =>
    let o := ofPages exitCode rest
    { o with printed := cs ++ o.printed }

/-- The outcome after something else has been printed. -/
def after (cs : List Char) (o : Outcome) : Outcome :=
  { o with printed := cs ++ o.printed }

/-- Prints nothing but breaks down. -/
def broken (cause : Breakdown) : Outcome :=
  ⟨[], 1, some cause⟩

/-- Reports a message in a panel. -/
def report (screen : Screen) (message : String) : Outcome :=
  ofPages 1 [screen.panel "Error" ("[red]" ++ message ++ "[/]").toList]

def ofFault (screen : Screen) (cause : Fault) : Outcome :=
  match cause with
  | .configuration fault => report screen fault.message
  | .protocol fault => report screen fault.message
  | .misuse misuse =>
    match misuse.message? with
    | some message => report screen message
    | none => broken (.fault cause)
  | .handler _ | .endless => broken (.fault cause)

def ofSourceFault (screen : Screen) (cause : Config.SourceFault) : Outcome :=
  match cause.message? with
  | some message => report screen message
  | none => broken (.source cause)

def ofModuleFault (screen : Screen) : ModuleFault → Outcome
  | .unnamed => report screen "Empty module name"
  | cause => broken (.module cause)

/-- What comes of a chat that hears no more. -/
def ofChat (c : Chat) : Outcome :=
  match c.status with
  | .asking _ | .ended => ⟨c.printed, 0, none⟩
  | .failed cause => (ofFault c.screen cause).after c.printed

end Outcome

def versionText : String := "Nestflow version 0.1.0\n"

def usageText : String :=
  "Usage: nestflow [OPTIONS] COMMAND [ARGS]...\n\n"
    ++ "Commands: demo, run, validate\nOptions: --version, --help\n"

/-- The common handlers and those of a module. -/
def handlersOf (screen : Screen) (module : Option String) : Except Outcome Handlers :=
  match module with
  | none => .ok .initial
  | some name =>
    match HandlerModule.find name with
    | .ok m => .ok (m.addTo .initial)
    | .error cause => .error (.ofModuleFault screen cause)

/-- The configuration at a path and the handlers that it may name. -/
def loadFlow (s : Services) (fs : Files) (path : String) (module : Option String) :
    Except Outcome (Config.FlowFile × Handlers) := do
  let handlers ← handlersOf s.screen module
  let document ← (Config.documentWith s.read fs (Path.ofString path)).mapError
    (.ofSourceFault s.screen)
  let given := Config.given document
  match Config.ofValue given with
  | .ok c => pure (c, handlers)
  | .issues found => throw (.report s.screen (s.listing given found))

/-! ### Checking -/

def overviewHeadings : List String := ["Flow", "Children", "Description"]

/-- The managers of a blueprint, one in each row. -/
def overview (b : Blueprint) : List (List String) :=
  b.definitions.filterMap fun d =>
    match d with
    | .leaf .. => none
    | .manager name children _ _ description =>
      some [name, ", ".intercalate children, description]

/-- The last line about a sound flow. -/
def countsText (c : Config.FlowFile) : String :=
  let flows := toString c.flows.length
  let nodes := toString c.nodes.length
  "[green]✓[/] " ++ flows ++ " flows, " ++ nodes ++ " nodes, root '" ++ c.root ++ "'"

def defectText (d : Defect) : String :=
  "[red]✗[/] " ++ d.message

/-- Checks a configuration. -/
def check (screen : Screen) (c : Config.FlowFile) (handlers : Handlers) : Outcome :=
  if !c.defects.isEmpty then
    .ofPages 1 (c.defects.map fun d => screen.line (defectText d).toList)
  else
    match c.compile handlers with
    | .error cause => .ofFault screen cause
    | .ok b =>
      .ofPages 0 [screen.table "Flows" overviewHeadings (overview b),
        screen.line (countsText c).toList]

/-- Checks the flow at a path. -/
def validation (s : Services) (fs : Files) (path : String) (module : Option String) : Outcome :=
  match loadFlow s fs path module with
  | .error o => o
  | .ok (c, handlers) => check s.screen c handlers

/-! ### Chatting -/

/-- Builds a flow and opens a chat with it. -/
def openChat (screen : Screen) (fs : Files) (b : Blueprint) (root level : String)
    (logFile : Option String) (showState : Bool) : Except Outcome Chat := do
  let conversation ← (Conversation.ofBlueprint b root (some (frontEnd screen)) .null "").mapError
    (.ofFault screen)
  let _ ← (Logging.setup fs level logFile).mapError fun cause => .report screen cause.message
  pure (.start screen conversation showState)

/-- The level at which the quiz writes its log, unless told otherwise. -/
def demoLevel : String := "WARNING"

/-- Opens a chat with the bundled quiz. -/
def openDemo (screen : Screen) (fs : Files) (o : ChatOptions) : Except Outcome Chat :=
  openChat screen fs Examples.Quiz.blueprint Examples.Quiz.root (o.logLevel.getD demoLevel)
    o.logFile o.showState

/-- Opens a chat with the flow at a path. -/
def openFlow (s : Services) (fs : Files) (path : String) (module : Option String)
    (o : ChatOptions) : Except Outcome Chat := do
  let (c, handlers) ← loadFlow s fs path module
  let b ← (c.compile handlers).mapError (.ofFault s.screen)
  openChat s.screen fs b c.root (o.logLevel.getD c.settings.logLevel.name)
    (o.logFile.or c.settings.logFile) (o.showState || c.settings.showState)

/-! ### All commands -/

/-- A command in the course of its work. -/
inductive Progress where
  | chatting (c : Chat)
  | done (o : Outcome)

namespace Progress

def ofChat? : Except Outcome Chat → Progress
  | .ok c => .chatting c
  | .error o => .done o

/-- Carries out a command as far as it goes without hearing anything. -/
def start (s : Services) (fs : Files) : Command → Progress
  | .version => .done ⟨versionText.toList, 0, none⟩
  | .help => .done ⟨usageText.toList, 0, none⟩
  | .demo o => ofChat? (openDemo s.screen fs o)
  | .run path module o => ofChat? (openFlow s fs path module o)
  | .validate path module => .done (validation s fs path module)

/-- The outcome once all lines have been heard. -/
def finish (lines : List String) : Progress → Outcome
  | .done o => o
  | .chatting c => .ofChat (c.hearAll lines)

end Progress

/-- The outcome of a command line that is not understood. -/
def misunderstood : Outcome := ⟨[], 2, none⟩

/-- The outcome of a command line with the lines that are typed. -/
def run (s : Services) (fs : Files) (args lines : List String) : Outcome :=
  match Command.ofArguments args with
  | some command => (Progress.start s fs command).finish lines
  | none => misunderstood

end Parley.Console

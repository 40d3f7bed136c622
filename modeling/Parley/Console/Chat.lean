import Parley.Conversation
import Parley.Terminal.Screen

/-!
# Chats

A chat holds a conversation with someone at the console. What the flow shows is
drawn on a screen, texts with a speaker before them and their markup obeyed; what
it asks for becomes a prompt, and a line typed at the prompt is delivered. The
chat is over when the flow ends, when the input ends or when one of a few words
is typed (`exitWords`).

A chat is a machine that hears one line at a time (`Chat.hear`). Between two
lines it has a status: it asks something, it has ended, or it has failed. What it
has printed so far is kept in the order of printing.
-/

namespace Parley.Console

open Terminal (Screen)

/-- A text of the flow with the speaker before it. -/
def spoken (text : List Char) : List Char :=
  "[bold blue]Bot > [/]".toList ++ text

def welcome : List Char :=
  "Type 'exit' or 'quit' to end session.\n".toList

def goodbye : List Char :=
  "\nGoodbye!".toList

def sessionOver : List Char :=
  "\nSession over.".toList

def notAnOption : List Char :=
  "Please select one of the available options".toList

/-- What is printed when the flow tells something. -/
def printedEvent (screen : Screen) : Event → Except Misuse (List Char)
  | .output (.text s) => screen.line (spoken s.toList)
  | .output (.markdown s) => screen.document s
  | .ended => .ok (screen.plain sessionOver)
  | .output _ | .expectation _ | .input _ => .ok []

/-- A screen as the front end of a conversation: it refuses what it cannot draw. -/
def frontEnd (screen : Screen) : FrontEnd where
  keepsInputs := false
  refusal event :=
    match printedEvent screen event with
    | .ok _ => none
    | .error cause => some (.misuse cause)

/-- The words that end a chat. -/
def exitWords : List String := ["quit", "exit", "q", "/quit", "/exit"]

/-- A typed answer ends the chat. -/
def isExit (answer : String) : Bool :=
  exitWords.contains (Text.stripped answer).toLower

/-- The prompt for an answer to a question, or to none. -/
def promptText : Option Payload → Except Misuse String
  | some (.choice options) => .ok ("You [" ++ "/".intercalate options ++ "]: ")
  | some (.freeText n) => do
    let most ← (Value.int n).display
    pure ("You (max " ++ most ++ " chars): ")
  | _ => .ok "You: "

/-- A question admits an answer: to a choice only its options are answers. -/
def admits (question : Option Payload) (answer : String) : Bool :=
  match question with
  | some (.choice options) => options.contains answer
  | _ => true

/-- Where a chat stands. -/
inductive ChatStatus where
  | asking (question : Option Payload)
  | ended
  | failed (cause : Fault)

structure Chat where
  screen : Screen
  conversation : Conversation
  /-- The state is printed after each answer. -/
  showsState : Bool
  /-- The number of the conversation's events that have been printed. -/
  told : Nat
  /-- What the flow asks for and no prompt has been printed for. -/
  pending : Option Payload
  printed : List Char
  status : ChatStatus

namespace Chat

/-- The tasks that a flow may perform between two questions. -/
def patience : Nat := 100000

def print (c : Chat) (cs : List Char) : Chat :=
  { c with printed := c.printed ++ cs }

/-- The last thing that events ask for. -/
def lastQuestion (events : List Event) : Option Payload :=
  (events.filterMap fun e => match e with
    | .expectation p => some p
    | _ => none).getLast?

/-- Takes a turn in the conversation and prints what comes of it. -/
def take (c : Chat) (turn : Turn Unit) : Chat :=
  let (result, conversation) := turn c.conversation
  let events := conversation.scene.events.drop c.told
  let text := events.flatMap fun e => (printedEvent c.screen e).toOption.getD []
  { c with
    conversation := conversation
    told := conversation.scene.events.length
    pending := (lastQuestion events).or c.pending
    printed := c.printed ++ text
    status := match result with
      | .ok _ => c.status
      | .error cause => .failed cause }

/-- Prints a prompt and waits for an answer, unless the prompt cannot be worded. -/
def ask (c : Chat) (question : Option Payload) : Chat :=
  match promptText question with
  | .ok text => { c.print (c.screen.prompt text.toList) with status := .asking question }
  | .error cause => { c with status := .failed (.misuse cause) }

/-- Asks what the flow asks, unless it has ended. -/
def goOn (c : Chat) : Chat :=
  if c.conversation.isFinished then { c with status := .ended }
  else { c.ask c.pending with pending := none }

/-- Ends the chat before the flow ends. -/
def leave (c : Chat) : Chat :=
  { c.print (c.screen.plain goodbye) with status := .ended }

def hasFailed (c : Chat) : Bool :=
  match c.status with
  | .failed _ => true
  | _ => false

/-- Prints the state if it is to be shown. -/
def reportState (c : Chat) : Chat :=
  if c.showsState then c.print (c.screen.value (.record c.conversation.state)) else c

/-- Starts a conversation at the console. -/
def start (screen : Screen) (conversation : Conversation) (showsState : Bool) : Chat :=
  let c : Chat := ⟨screen, conversation, showsState, 0, none, screen.plain welcome, .ended⟩
  let c := c.take (Turn.start patience)
  if c.hasFailed then c else c.goOn

/-- Delivers an answer to the flow. -/
def answer (c : Chat) (text : String) : Chat :=
  let c := c.take (Turn.deliver patience (.text text))
  if c.hasFailed then c else c.reportState.goOn

/-- Hears a line, or that there are no more. Nothing is heard unless the chat
    asks something. -/
def hear (c : Chat) (line : Option String) : Chat :=
  match c.status with
  | .ended | .failed _ => c
  | .asking question =>
    match line with
    | none => c.leave
    | some typed =>
      let text := Text.stripped typed
      if !admits question text then (c.print (c.screen.plain notAnOption)).ask question
      else if isExit text then c.leave
      else c.answer text

/-- Hears all lines that there are. -/
def hearAll (c : Chat) (lines : List String) : Chat :=
  (lines.foldl (fun c line => c.hear (some line)) c).hear none

end Chat

end Parley.Console

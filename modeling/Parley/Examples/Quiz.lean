import Parley.Answer
import Parley.Conversation
import Parley.Value.Arithmetic

/-!
# A language quiz

The bundled example of a flow. It asks for a name, then for a programming
language, puts one question about it and says goodbye:

* `ask_name_flow` asks for the name and greets;
* `language_flow` asks for the language and puts the question, up to three
  times, with a hint after each wrong answer;
* `farewell_flow` says goodbye.

The question itself is shown only before the first attempt; a further attempt
waits for the next answer without repeating it. An answer is read as a number
in the way of `Parley.Answer`.

The same handlers, with fixed names for the nodes they route to, serve flow
files (`handlers`).
-/

namespace Parley.Examples.Quiz

open Parley

def maxAttempts : Int := 3

def expectedAnswer : Int := 3

def languages : List String := ["Java", "JavaScript"]

/-- Turns a misuse into a fault. -/
def orMisuse {α : Type} (r : Except Misuse α) : Except Fault α :=
  r.mapError .misuse

/-- The last answer as a number. -/
def answer (state : Mapping) : Except Fault Binary64 :=
  orMisuse (Answer.number (Mapping.get state "answer"))

/-- The last answer is the expected one. -/
def isCorrect (state : Mapping) : Except Fault Bool := do
  pure ((← answer state).quantity.same (.ofInt expectedAnswer))

/-- No attempt has been made. -/
def isFirstAttempt (state : Mapping) : Bool :=
  !(Mapping.get state "attempts").isTruthy

/-- The attempts made are exactly the most that are allowed. -/
def isLastAttempt (state : Mapping) : Bool :=
  (Mapping.get state "attempts").sameKey (.int maxAttempts)

/-- What is said about the last answer. -/
def feedback (state : Mapping) : Except Fault String := do
  if ← isCorrect state then pure "Correct!"
  else if isLastAttempt state then pure "Noted. You are out of attempts."
  else if (← answer state).quantity.less (.ofInt expectedAnswer) then pure "You are lower"
  else pure "You are higher"

/-- Shows the feedback in place of the payload's text. -/
def showFeedback : Transform := fun state payload => do
  let words ← feedback state
  match payload with
  | some p => pure (some (p.withText words))
  | none => throw (.misuse .part)

/-- Shows the payload before the first attempt only. -/
def onFirstAttempt (inner : Transform) : Transform :=
  .onlyWhen (fun state => pure (isFirstAttempt state)) inner

/-- The number of attempts, one more than before. -/
def nextAttempt (state : Mapping) : Except Fault Value :=
  orMisuse (((Mapping.get state "attempts").orElse (.int 0)).add (.int 1))

/-- Stores the answer, counts the attempt and goes to the response. -/
def recordAnswer (response : String) (input : Value) (state : Mapping) : Except Fault Reply := do
  let attempts ← nextAttempt state
  let patch := [(.text "answer", input), (.text "attempts", attempts)]
  pure (.decision (.goto (.text response) patch))

/-- The question is over: answered, or tried as often as is allowed. -/
def isOver (state : Mapping) : Except Fault Bool := do
  if ← isCorrect state then pure true
  else
    orMisuse (((Mapping.get state "attempts").orElse (.int 0)).isAtLeast (.int maxAttempts))

/-- Goes back to the question, or finishes when it is over. -/
def retryOrFinish (question : String) (state : Mapping) : Except Fault Reply := do
  if ← isOver state then pure (.decision (.finish []))
  else pure (.decision (.goto (.text question) []))

/-! ### The flow -/

/-- A decider of a leaf, which is always handed an input. -/
def leafDecider (reply : Value → Mapping → Except Fault Reply) : Decider where
  reply
    | some input, state => reply input state
    | none, _ => .error (.misuse .kind)

/-- Goes on to an element. -/
def goingTo (name : String) : Decider where
  reply _ _ := .ok (.decision (.goto (.text name) []))

/-- Finishes. -/
def finishing : Decider where
  reply _ _ := .ok (.decision (.finish []))

/-- Stores the input under a key and goes on to an element. -/
def storing (key name : String) : Decider :=
  leafDecider fun input _ => .ok (.decision (.goto (.text name) [(.text key, input)]))

def showing (words : String) (transform : Transform := .identity) : Option Emitter :=
  some ⟨some (.text words), transform⟩

def askingText : Option Emitter :=
  some ⟨some (.freeText defaultMaxLength), .identity⟩

def askingChoice (options : List String) : Option Emitter :=
  some ⟨some (.choice options), .identity⟩

/-- The question in one language, and the response to an answer to it. -/
def question (language ask respond : String) : List Definition :=
  [ .leaf ask (leafDecider (recordAnswer respond))
      (showing s!"What is 1 + 2 in {language}?" (onFirstAttempt .identity)) askingText,
    .leaf respond (leafDecider fun _ state => retryOrFinish ask state)
      (showing "" showFeedback) none ]

/-- Goes to the question of the chosen language. -/
def choosing : Decider where
  reply _ state :=
    let chosen :=
      if (Mapping.get state "language").sameKey (.text "Java") then "java_question"
      else "javascript_question"
    .ok (.decision (.goto (.text chosen) []))

def definitions : List Definition :=
  [ .leaf "ask_name" (storing "name" "respond_name") (showing "What is your name?") askingText,
    .leaf "respond_name" finishing (showing "Hello! $\x7bname\x7d" .template) none,
    .manager "ask_name_flow" ["ask_name", "respond_name"] "ask_name"
      (some (goingTo "language_flow")) "",
    .leaf "ask_language" (storing "language" "confirm_language")
      (showing "What are you comfortable with?") (askingChoice languages),
    .leaf "confirm_language" choosing (showing "Sweet.") none ]
  ++ question "Java" "java_question" "java_response"
  ++ question "JavaScript" "javascript_question" "javascript_response"
  ++ [ .manager "language_flow"
        ["ask_language", "confirm_language", "java_question", "java_response",
          "javascript_question", "javascript_response"]
        "ask_language" (some (goingTo "farewell_flow")) "",
      .leaf "farewell" finishing
        (showing "That’s it from my end. Hope you liked the chat $\x7bname\x7d" .template) none,
      .manager "farewell_flow" ["farewell"] "farewell" none "",
      .manager "main" ["ask_name_flow", "language_flow", "farewell_flow"] "ask_name_flow" none "" ]

def blueprint : Blueprint := ⟨definitions⟩

/-- The name of the outermost manager. -/
def root : String := "main"

/-! ### Handlers for flow files -/

/-- The decision functions that flow files may name. -/
def deciders : List (String × Decider) :=
  [ ("record_answer", leafDecider (recordAnswer "feedback")),
    ("retry_or_finish", leafDecider fun _ state => do
      if ← isOver state then pure .nothing
      else pure (.decision (.goto (.text "question") []))) ]

/-- The transforms that flow files may name. -/
def transforms : List (String × Transform) :=
  [ ("first_attempt_only", onFirstAttempt .template), ("answer_feedback", showFeedback) ]

end Parley.Examples.Quiz

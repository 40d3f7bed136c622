import Parley.Config.Source
import Parley.HandlerModule
import Parley.Proofs.Config.Compile
import Parley.Proofs.Examples.Quiz.Dialogue

/-!
# Flows of the quiz

Two flows are made for the dialogue of the quiz. The bundled one has a question and a response
for each language (`layout`), and the one that the flow file is compiled to has a question that
is a template (`fileLayout`). What their parts are can be read off the flows that are built
(`IsBundled`, `IsCompiled`), and what the leaves do follows from their parts:

* `acts_question`, `acts_response`: the question and the response, whose handlers may fail;
* `IsBundled.describes`: the leaves of the bundled flow do what its layout says;
* `IsCompiled.describes`: so do those of the flow of the file.
-/

namespace Parley.Examples.Quiz

open Parley Element

variable {e : Element} {k key target response question first : String} {p b b' : Address}
  {v state : Value} {states : Mapping → Prop} {w : Wording} {c₀ : Conversation} {id : String}

/-! ### Handlers of the quiz -/

theorem onFirstAttempt_eq {inner : Transform} {payload : Payload} {st : Mapping}
    (h : inner st (some payload) = w.question st) :
    onFirstAttempt inner st (some payload) = w.shown st := by
  simp only [onFirstAttempt, Transform.onlyWhen, Wording.shown, h]
  cases isFirstAttempt st <;> rfl

theorem showFeedback_eq (words : String) (st : Mapping) :
    showFeedback st (some (.text words)) = Wording.judged st := by
  rw [showFeedback, Wording.judged]
  cases feedback st <;> rfl

/-- A question of the quiz. -/
theorem acts_question {inner : Transform} {payload : Payload}
    (hl : e.HasLeaf (key :: p) (leafDecider (recordAnswer response))
      (some ⟨some payload, onFirstAttempt inner⟩) askingText)
    (hb : e.StartsAt (response :: p) b)
    (hs : ∀ st, states st → st.IsTextual ∧ inner st (some payload) = w.question st) :
    e.Acts (key :: p) states w.shown (some (.freeText defaultMaxLength))
      fun v st => (nextAttempt st).map fun attempts =>
        (st.merge (recorded v attempts), some b) where
  exists_leaf := ⟨_, _, hl, fun st h => onFirstAttempt_eq (hs st h).2⟩
  hands v st h := by
    have hdecision : (leafDecider (recordAnswer response)).decision (some v) st =
        (nextAttempt st).map fun attempts => .goto (.text response) (recorded v attempts) := by
      simp only [Decider.decision, leafDecider, recordAnswer]
      cases nextAttempt st <;> rfl
    cases hn : nextAttempt st with
    | error cause => exact .of_error hl (by rw [hdecision, hn]; rfl)
    | ok attempts =>
      exact .of_goto _ _ hl (by rw [hdecision, hn]; rfl) (hs st h).1
        (isTextual_recorded v attempts) hb

/-- A response of the quiz: it leads back to the question, or to where the manager above it goes. -/
theorem acts_response {words : String} {d : Decider}
    (hl : e.HasLeaf (k :: key :: p) d (some ⟨some (.text words), showFeedback⟩) none)
    (hd : ∀ v st, d.decision (some v) st = (isOver st).map fun closed =>
      if closed then .finish [] else .goto (.text question) [])
    (hb : e.StartsAt (question :: key :: p) b)
    (hm : e.HasManager (key :: p) first (some (goingTo target)))
    (hb' : e.StartsAt (target :: p) b') (hs : ∀ st, states st → st.IsTextual) :
    e.Acts (k :: key :: p) states Wording.judged none
      fun _ st => (isOver st).map fun closed => (st, some (if closed then b' else b)) where
  exists_leaf := ⟨_, _, hl, fun st _ => showFeedback_eq words st⟩
  hands v st h := by
    cases hover : isOver st with
    | error cause => exact .of_error hl (by rw [hd, hover]; rfl)
    | ok closed =>
      cases closed with
      | true => exact .of_finish hl (by rw [hd, hover]; rfl) hm rfl hb'
      | false =>
        exact .of_goto _ _ hl (by rw [hd, hover]; rfl) (hs st h) (List.forall_mem_nil _) hb

/-! ### The bundled flow -/

/-- One of two, by the language chosen. -/
def byLanguage (language : Value) (java javaScript : String) : String :=
  if language.sameKey (.text "Java") then java else javaScript

theorem byLanguage_cases (language : Value) :
    (∀ java javaScript, byLanguage language java javaScript = java) ∨
      ∀ java javaScript, byLanguage language java javaScript = javaScript := by
  by_cases h : language.sameKey (.text "Java")
  · exact .inl fun _ _ => if_pos h
  · exact .inr fun _ _ => if_neg h

/-- The wording of the bundled flow. -/
def wording : Wording where
  fixed := .identity
  question state := .ok (some (.text (byLanguage (Mapping.get state "language")
    "What is 1 + 2 in Java?" "What is 1 + 2 in JavaScript?")))
  farewell := .text "That’s it from my end. Hope you liked the chat $\x7bname\x7d"

/-- The layout of the bundled flow. -/
def layout : Layout where
  askName := ["ask_name", "ask_name_flow"]
  respondName := ["respond_name", "ask_name_flow"]
  askLanguage := ["ask_language", "language_flow"]
  confirmLanguage := ["confirm_language", "language_flow"]
  question language := [byLanguage language "java_question" "javascript_question", "language_flow"]
  response language := [byLanguage language "java_response" "javascript_response", "language_flow"]
  farewell := ["farewell", "farewell_flow"]

/-- The parts of the bundled flow. -/
structure IsBundled (e : Element) : Prop where
  height : e.height = 2
  main : e.HasManager [] "ask_name_flow" none
  askNameFlow : e.HasManager ["ask_name_flow"] "ask_name" (some (goingTo "language_flow"))
  languageFlow : e.HasManager ["language_flow"] "ask_language" (some (goingTo "farewell_flow"))
  farewellFlow : e.HasManager ["farewell_flow"] "farewell" none
  askName : e.HasLeaf ["ask_name", "ask_name_flow"] (storing "name" "respond_name")
    (showing "What is your name?") askingText
  respondName : e.HasLeaf ["respond_name", "ask_name_flow"] finishing
    (showing "Hello! $\x7bname\x7d" .template) none
  askLanguage : e.HasLeaf ["ask_language", "language_flow"] (storing "language" "confirm_language")
    (showing "What are you comfortable with?") (askingChoice languages)
  confirmLanguage : e.HasLeaf ["confirm_language", "language_flow"] choosing (showing "Sweet.") none
  javaQuestion : e.HasLeaf ["java_question", "language_flow"]
    (leafDecider (recordAnswer "java_response"))
    (showing "What is 1 + 2 in Java?" (onFirstAttempt .identity)) askingText
  javaResponse : e.HasLeaf ["java_response", "language_flow"]
    (leafDecider fun _ state => retryOrFinish "java_question" state) (showing "" showFeedback) none
  javaScriptQuestion : e.HasLeaf ["javascript_question", "language_flow"]
    (leafDecider (recordAnswer "javascript_response"))
    (showing "What is 1 + 2 in JavaScript?" (onFirstAttempt .identity)) askingText
  javaScriptResponse : e.HasLeaf ["javascript_response", "language_flow"]
    (leafDecider fun _ state => retryOrFinish "javascript_question" state)
    (showing "" showFeedback) none
  farewell : e.HasLeaf ["farewell", "farewell_flow"] finishing
    (showing "That’s it from my end. Hope you liked the chat $\x7bname\x7d" .template) none

theorem isBundled_opened {frontEnd : FrontEnd}
    (h : Conversation.ofBlueprint blueprint root (some frontEnd) state id = .ok c₀) :
    IsBundled c₀.opened := by
  obtain ⟨top, initial, hb, -, rfl⟩ := Conversation.ofBlueprint_eq_ok_iff.1 h
  obtain rfl := Except.ok.inj ((rfl : blueprint.build root (some frontEnd) = .ok _).symm.trans hb)
  constructor
  case height => rfl
  case main | askNameFlow | languageFlow | farewellFlow => exact ⟨_, _, rfl, rfl, rfl⟩
  all_goals exact ⟨_, rfl, rfl, rfl, rfl⟩

theorem exists_bundled {value : Value} {initial : Mapping} {frontEnd : FrontEnd}
    (hv : Mapping.ofValue value = .ok initial) (id : String) :
    ∃ c, Conversation.ofBlueprint blueprint root (some frontEnd) value id = .ok c :=
  ⟨_, Conversation.ofBlueprint_eq_ok_iff.2 ⟨_, _, rfl, hv, rfl⟩⟩

theorem decision_retryOrFinish (question : String) (v : Value) (st : Mapping) :
    (leafDecider fun _ state => retryOrFinish question state).decision (some v) st =
      (isOver st).map fun closed => if closed then .finish [] else .goto (.text question) [] := by
  simp only [Decider.decision, leafDecider, retryOrFinish]
  rcases isOver st with cause | closed
  · rfl
  · cases closed <;> rfl

/-- The leaves of the bundled flow are where its layout says, and do what those of the quiz do. -/
theorem IsBundled.describes (h : IsBundled e) : layout.Describes wording e where
  height := h.height
  start := h.main.startsAt (h.askNameFlow.startsAt h.askName.startsAt)
  askName := ⟨⟨_, _, h.askName, fun _ _ => rfl⟩, fun v st hs =>
    .of_goto _ [(.text "name", v)] h.askName rfl hs (by simp [Mapping.IsTextual])
      h.respondName.startsAt⟩
  respondName := ⟨⟨_, _, h.respondName, fun _ _ => rfl⟩, fun v st hs =>
    .of_finish h.respondName rfl h.askNameFlow rfl (h.languageFlow.startsAt h.askLanguage.startsAt)⟩
  askLanguage := ⟨⟨_, _, h.askLanguage, fun _ _ => rfl⟩, fun v st hs =>
    .of_goto _ [(.text "language", v)] h.askLanguage rfl hs (by simp [Mapping.IsTextual])
      h.confirmLanguage.startsAt⟩
  confirmLanguage := ⟨⟨_, _, h.confirmLanguage, fun _ _ => rfl⟩, fun v st hs => by
    refine .of_goto (byLanguage (Mapping.get st "language") "java_question" "javascript_question")
      [] h.confirmLanguage rfl hs (List.forall_mem_nil _) ?_
    rcases byLanguage_cases (Mapping.get st "language") with hj | hj <;> simp only [layout, hj]
    · exact h.javaQuestion.startsAt
    · exact h.javaScriptQuestion.startsAt⟩
  question language := by
    rcases byLanguage_cases language with hj | hj <;> simp only [layout, hj]
    · refine acts_question h.javaQuestion h.javaResponse.startsAt fun st hs => ⟨hs.1, ?_⟩
      simp only [Transform.identity, wording, hs.2, hj]
    · refine acts_question h.javaScriptQuestion h.javaScriptResponse.startsAt fun st hs =>
        ⟨hs.1, ?_⟩
      simp only [Transform.identity, wording, hs.2, hj]
  response language := by
    have hnext := h.farewellFlow.startsAt h.farewell.startsAt
    rcases byLanguage_cases language with hj | hj <;> simp only [layout, hj]
    · exact acts_response h.javaResponse (decision_retryOrFinish _) h.javaQuestion.startsAt
        h.languageFlow hnext fun st hs => hs.1
    · exact acts_response h.javaScriptResponse (decision_retryOrFinish _)
        h.javaScriptQuestion.startsAt h.languageFlow hnext fun st hs => hs.1
  farewell := ⟨⟨_, _, h.farewell, fun _ _ => rfl⟩, fun v st hs =>
    .of_last h.farewell rfl h.farewellFlow h.main⟩

/-! ### The flow file -/

/-- The flow file of the quiz, as the value that it is read as. -/
def fileValue : Value :=
  let shows (kind words : String) : Value × Value :=
    (.text "output", .record [(.text "kind", .text kind), (.text "text", .text words)])
  let asks : Value × Value :=
    (.text "expectation", .record [(.text "kind", .text "free_text"),
      (.text "max_length", .int 100)])
  .record [
    (.text "version", .text "1.0"),
    (.text "root", .text "main"),
    (.text "settings", .record [
      (.text "log_level", .text "WARNING"), (.text "show_state", .bool false)]),
    (.text "nodes", .record [
      (.text "ask_name", .record [shows "text" "What is your name?", asks,
        (.text "store", .text "name"), (.text "next", .text "greet")]),
      (.text "greet", .record [shows "text" "Hello! $\x7bname\x7d"]),
      (.text "ask_language", .record [shows "text" "What are you comfortable with?",
        (.text "expectation", .record [(.text "kind", .text "choice"),
          (.text "options", .list [.text "Java", .text "JavaScript"])]),
        (.text "store", .text "language"), (.text "next", .text "sweet")]),
      (.text "sweet", .record [shows "text" "Sweet.", (.text "next", .text "question")]),
      (.text "question", .record [shows "text" "What is 1 + 2 in $\x7blanguage\x7d?",
        (.text "output_transform", .text "first_attempt_only"), asks,
        (.text "decide", .text "record_answer")]),
      (.text "feedback", .record [shows "text" "",
        (.text "output_transform", .text "answer_feedback"),
        (.text "decide", .text "retry_or_finish")]),
      (.text "farewell", .record [shows "markdown"
        "That’s it from my end. Hope you liked the chat **$\x7bname\x7d**"])]),
    (.text "flows", .record [
      (.text "greeting", .record [
        (.text "description", .text "Ask for the user's name and greet them"),
        (.text "nodes", .list [.text "ask_name", .text "greet"]), (.text "next", .text "quiz")]),
      (.text "quiz", .record [
        (.text "description",
          .text "Pick a language and answer a question in up to three attempts"),
        (.text "nodes", .list [.text "ask_language", .text "sweet", .text "question",
          .text "feedback"]),
        (.text "next", .text "goodbye")]),
      (.text "goodbye", .record [(.text "nodes", .list [.text "farewell"])]),
      (.text "main", .record [
        (.text "nodes", .list [.text "greeting", .text "quiz", .text "goodbye"])])])]

/-- A node that is configured without a decision function. -/
def node (output : Payload) (expectation : Option Payload) (store next : Option String) :
    Config.NodeConfig :=
  ⟨some output, none, expectation, none, store, [], next, none, none⟩

/-- A node that leaves the decision to a handler, and what it shows to another one. -/
def handledNode (words transform : String) (expectation : Option Payload) (decide : String) :
    Config.NodeConfig :=
  ⟨some (.text words), some transform, expectation, none, none, [], none, none, some decide⟩

def askNameNode : Config.NodeConfig :=
  node (.text "What is your name?") (some (.freeText defaultMaxLength)) (some "name") (some "greet")

def greetNode : Config.NodeConfig :=
  node (.text "Hello! $\x7bname\x7d") none none none

def askLanguageNode : Config.NodeConfig :=
  node (.text "What are you comfortable with?") (some (.choice languages)) (some "language")
    (some "sweet")

def sweetNode : Config.NodeConfig :=
  node (.text "Sweet.") none none (some "question")

def farewellNode : Config.NodeConfig :=
  node (.markdown "That’s it from my end. Hope you liked the chat **$\x7bname\x7d**") none none none

/-- The configuration that the flow file describes. -/
def file : Config.FlowFile where
  version := "1.0"
  root := "main"
  settings := Config.defaultSettings
  nodes := [("ask_name", askNameNode), ("greet", greetNode), ("ask_language", askLanguageNode),
    ("sweet", sweetNode),
    ("question", handledNode "What is 1 + 2 in $\x7blanguage\x7d?" "first_attempt_only"
      (some (.freeText defaultMaxLength)) "record_answer"),
    ("feedback", handledNode "" "answer_feedback" none "retry_or_finish"),
    ("farewell", farewellNode)]
  flows := [
    ("greeting", ⟨"Ask for the user's name and greet them", ["ask_name", "greet"], "ask_name",
      some "quiz", none⟩),
    ("quiz", ⟨"Pick a language and answer a question in up to three attempts",
      ["ask_language", "sweet", "question", "feedback"], "ask_language", some "goodbye", none⟩),
    ("goodbye", ⟨"", ["farewell"], "farewell", none, none⟩),
    ("main", ⟨"", ["greeting", "quiz", "goodbye"], "greeting", none, none⟩)]

theorem ofDocument_fileValue : Config.ofDocument fileValue = .ok file := rfl

/-- The handlers that the flow file names, and the common ones. -/
def handlers : Handlers :=
  HandlerModule.addTo ⟨deciders, transforms⟩ .initial

theorem file_defects : file.defects = [] := by
  rw [Config.FlowFile.defects, Config.FlowFile.ambiguous_eq_nil rfl]
  rfl

/-- The wording of the flow file, in which all texts are templates. -/
def fileWording : Wording where
  fixed := .template
  question state := Transform.template state (some (.text "What is 1 + 2 in $\x7blanguage\x7d?"))
  farewell := .markdown "That’s it from my end. Hope you liked the chat **$\x7bname\x7d**"

/-- The layout of the flow file. -/
def fileLayout : Layout where
  askName := ["ask_name", "greeting"]
  respondName := ["greet", "greeting"]
  askLanguage := ["ask_language", "quiz"]
  confirmLanguage := ["sweet", "quiz"]
  question _ := ["question", "quiz"]
  response _ := ["feedback", "quiz"]
  farewell := ["farewell", "goodbye"]

/-- The decider that retries in the flow of the file. -/
def fileRetry : Decider :=
  leafDecider fun _ state => do
    if ← isOver state then pure .nothing
    else pure (.decision (.goto (.text "question") []))

/-- The parts of the flow that the file is compiled to. -/
structure IsCompiled (e : Element) : Prop where
  height : e.height = 2
  main : e.HasManager [] "greeting" none
  greeting : e.HasManager ["greeting"] "ask_name" (some (goingTo "quiz"))
  quiz : e.HasManager ["quiz"] "ask_language" (some (goingTo "goodbye"))
  goodbye : e.HasManager ["goodbye"] "farewell" none
  askName : e.HasLeaf ["ask_name", "greeting"] (askNameNode.declared "ask_name")
    (showing "What is your name?" .template) askingText
  greet : e.HasLeaf ["greet", "greeting"] (greetNode.declared "greet")
    (showing "Hello! $\x7bname\x7d" .template) none
  askLanguage : e.HasLeaf ["ask_language", "quiz"] (askLanguageNode.declared "ask_language")
    (showing "What are you comfortable with?" .template) (askingChoice languages)
  sweet : e.HasLeaf ["sweet", "quiz"] (sweetNode.declared "sweet")
    (showing "Sweet." .template) none
  question : e.HasLeaf ["question", "quiz"] (leafDecider (recordAnswer "feedback"))
    (showing "What is 1 + 2 in $\x7blanguage\x7d?" (onFirstAttempt .template)) askingText
  feedback : e.HasLeaf ["feedback", "quiz"] fileRetry (showing "" showFeedback) none
  farewell : e.HasLeaf ["farewell", "goodbye"] (farewellNode.declared "farewell")
    (some ⟨some (.markdown "That’s it from my end. Hope you liked the chat **$\x7bname\x7d**"),
      .template⟩) none

theorem isCompiled_opened {b : Blueprint} (hfile : file.compile handlers = .ok b)
    (h : Conversation.ofBlueprint b file.root (some .recording) state id = .ok c₀) :
    IsCompiled c₀.opened := by
  rw [Config.FlowFile.compile_of_defects file_defects] at hfile
  obtain rfl := Except.ok.inj ((rfl : file.assemble handlers = .ok _).symm.trans hfile)
  obtain ⟨top, initial, hb, -, rfl⟩ := Conversation.ofBlueprint_eq_ok_iff.1 h
  obtain rfl := Except.ok.inj ((rfl : Blueprint.build _ _ _ = .ok _).symm.trans hb)
  constructor
  case height => rfl
  case main | greeting | quiz | goodbye => exact ⟨_, _, rfl, rfl, rfl⟩
  all_goals exact ⟨_, rfl, rfl, rfl, rfl⟩

theorem exists_compiled {value : Value} {initial : Mapping}
    (hv : Mapping.ofValue value = .ok initial) (id : String) :
    ∃ b c, file.compile handlers = .ok b ∧
      Conversation.ofBlueprint b file.root (some .recording) value id = .ok c :=
  ⟨_, _, (Config.FlowFile.compile_of_defects file_defects).trans rfl,
    Conversation.ofBlueprint_eq_ok_iff.2 ⟨_, _, rfl, hv, rfl⟩⟩

theorem decision_fileRetry (v : Value) (st : Mapping) :
    fileRetry.decision (some v) st =
      (isOver st).map fun closed => if closed then .finish [] else .goto (.text "question") [] := by
  simp only [Decider.decision, leafDecider, fileRetry]
  rcases isOver st with cause | closed
  · rfl
  · cases closed <;> rfl

/-- The leaves of that flow are where its layout says, and do what those of the quiz do. -/
theorem IsCompiled.describes (h : IsCompiled e) : fileLayout.Describes fileWording e where
  height := h.height
  start := h.main.startsAt (h.greeting.startsAt h.askName.startsAt)
  askName := ⟨⟨_, _, h.askName, fun _ _ => rfl⟩, fun v st hs =>
    .of_goto _ [(.text "name", v)] h.askName rfl hs (by simp [Mapping.IsTextual])
      h.greet.startsAt⟩
  respondName := ⟨⟨_, _, h.greet, fun _ _ => rfl⟩, fun v st hs =>
    .of_finish h.greet rfl h.greeting rfl (h.quiz.startsAt h.askLanguage.startsAt)⟩
  askLanguage := ⟨⟨_, _, h.askLanguage, fun _ _ => rfl⟩, fun v st hs =>
    .of_goto _ [(.text "language", v)] h.askLanguage rfl hs (by simp [Mapping.IsTextual])
      h.sweet.startsAt⟩
  confirmLanguage := ⟨⟨_, _, h.sweet, fun _ _ => rfl⟩, fun v st hs =>
    .of_goto _ [] h.sweet rfl hs (List.forall_mem_nil _) h.question.startsAt⟩
  question language := acts_question h.question h.feedback.startsAt fun st hs => ⟨hs.1, rfl⟩
  response language := acts_response h.feedback decision_fileRetry h.question.startsAt h.quiz
    (h.goodbye.startsAt h.farewell.startsAt) fun st hs => hs.1
  farewell := ⟨⟨_, _, h.farewell, fun _ _ => rfl⟩, fun v st hs =>
    .of_last h.farewell rfl h.goodbye h.main⟩

end Parley.Examples.Quiz

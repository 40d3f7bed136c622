import Parley.Examples.Quiz
import Parley.Proofs.Conversation.Dialogue

/-!
# The dialogue of the quiz

The quiz waits for a name, for a language and for answers to its question (`Place`), and what an
input comes to at each of these places can be told without a tree (`dialogue`). Two flows of the
quiz may word the question and the farewell differently (`Wording`), and may have their leaves
at different addresses (`Layout`).

A flow serves the dialogue if its leaves do what the layout says (`Layout.Describes.serves`).
-/

namespace Parley.Examples.Quiz

open Parley Element

/-- What the quiz waits for. -/
inductive Place where
  | name
  | language
  | question
  deriving DecidableEq, Repr

/-- What may be worded differently in flows of the quiz. -/
structure Wording where
  /-- How a fixed text becomes what is shown. -/
  fixed : Transform
  question : Mapping → Except Fault (Option Payload)
  /-- What the farewell is made from. -/
  farewell : Payload

/-! ### What comes of an input -/

/-- A greeting by name. -/
def hello (state : Mapping) : Except Fault (Option Payload) :=
  Transform.template state (some (.text "Hello! $\x7bname\x7d"))

namespace Wording

/-- What is shown of a fixed text. -/
def fixedText (w : Wording) (words : String) (state : Mapping) : Except Fault (Option Payload) :=
  w.fixed state (some (.text words))

/-- What is shown before the wait for an answer. -/
def shown (w : Wording) (state : Mapping) : Except Fault (Option Payload) :=
  if isFirstAttempt state then w.question state else .ok none

/-- What is shown at the end. -/
def bye (w : Wording) (state : Mapping) : Except Fault (Option Payload) :=
  Transform.template state (some w.farewell)

/-- The wait for an answer. -/
def asking (w : Wording) (state : Mapping) : Response Place :=
  .saying w.shown state ⟨[.expectation (.freeText defaultMaxLength)], state, .waiting .question⟩

/-- The farewell, and the end. -/
def leaving (w : Wording) (state : Mapping) : Response Place :=
  .saying w.bye state ⟨[.ended], state, .ended⟩

/-- What is said about an answer that has been stored. -/
def judged (state : Mapping) : Except Fault (Option Payload) :=
  (feedback state).map fun words => some (.text words)

/-- What comes of an answer that has been judged: the wait for another one, or the end. -/
def settling (w : Wording) (state : Mapping) : Response Place :=
  match isOver state with
  | .error cause => ⟨[], state, .failed cause⟩
  | .ok true => w.leaving state
  | .ok false => w.asking state

/-- What comes of an answer once it has been stored: the feedback first. -/
def judging (w : Wording) (state : Mapping) : Response Place :=
  .saying judged state (w.settling state)

end Wording

/-- What an answer changes in the state. -/
def recorded (answer attempts : Value) : Mapping :=
  [(.text "answer", answer), (.text "attempts", attempts)]

/-- The dialogue of the quiz. -/
def dialogue (w : Wording) : Dialogue Place where
  opening state :=
    .saying (w.fixedText "What is your name?") state
      ⟨[.expectation (.freeText defaultMaxLength)], state, .waiting .name⟩
  answer
    | .name, v, state =>
      let state := state.insert (.text "name") v
      .saying hello state (.saying (w.fixedText "What are you comfortable with?") state
        ⟨[.expectation (.choice languages)], state, .waiting .language⟩)
    | .language, v, state =>
      let state := state.insert (.text "language") v
      .saying (w.fixedText "Sweet.") state (w.asking state)
    | .question, v, state =>
      match nextAttempt state with
      | .error cause => ⟨[], state, .failed cause⟩
      | .ok attempts => w.judging (state.merge (recorded v attempts))

/-! ### The leaves -/

/-- Where the leaves of the quiz are; there may be a question for each language. -/
structure Layout where
  askName : Address
  respondName : Address
  askLanguage : Address
  confirmLanguage : Address
  question : Value → Address
  response : Value → Address
  farewell : Address

namespace Layout

/-- The leaf that waits at a place. -/
def leaf (L : Layout) : Place → Mapping → Address
  | .name, _ => L.askName
  | .language, _ => L.askLanguage
  | .question, state => L.question (Mapping.get state "language")

/-- The leaves do what those of the quiz do. The question and the response of a language are
    come to in states with that language only. -/
structure Describes (L : Layout) (w : Wording) (e : Element) : Prop where
  height : e.height = 2
  start : e.StartsAt [] L.askName
  askName : e.Acts L.askName Mapping.IsTextual (w.fixedText "What is your name?")
    (some (.freeText defaultMaxLength))
    fun v state => .ok (state.insert (.text "name") v, some L.respondName)
  respondName : e.Acts L.respondName Mapping.IsTextual hello none
    fun _ state => .ok (state, some L.askLanguage)
  askLanguage : e.Acts L.askLanguage Mapping.IsTextual
    (w.fixedText "What are you comfortable with?") (some (.choice languages))
    fun v state => .ok (state.insert (.text "language") v, some L.confirmLanguage)
  confirmLanguage : e.Acts L.confirmLanguage Mapping.IsTextual (w.fixedText "Sweet.") none
    fun _ state => .ok (state, some (L.question (Mapping.get state "language")))
  question : ∀ language, e.Acts (L.question language)
    (fun state => state.IsTextual ∧ Mapping.get state "language" = language) w.shown
    (some (.freeText defaultMaxLength))
    fun v state => (nextAttempt state).map fun attempts =>
      (state.merge (recorded v attempts), some (L.response language))
  response : ∀ language, e.Acts (L.response language)
    (fun state => state.IsTextual ∧ Mapping.get state "language" = language) Wording.judged none
    fun _ state => (isOver state).map fun closed =>
      (state, some (if closed then L.farewell else L.question language))
  farewell : e.Acts L.farewell Mapping.IsTextual w.bye none
    fun _ state => .ok (state, none)

end Layout

/-! ### The flow serves the dialogue -/

variable {w : Wording} {L : Layout} {e : Element} {state : Mapping} {v attempts : Value}

theorem isTextual_recorded (v attempts : Value) : (recorded v attempts).IsTextual := by
  simp [recorded, Mapping.IsTextual]

theorem merge_recorded : state.merge (recorded v attempts) =
    (state.insert (.text "answer") v).insert (.text "attempts") attempts := by
  rw [recorded, Mapping.merge_cons, Mapping.merge_cons, Mapping.merge_nil]

/-- An answer changes nothing else. -/
theorem find?_recorded {key : String} (ha : "answer" ≠ key) (hn : "attempts" ≠ key) :
    (state.merge (recorded v attempts)).find? (.text key) = state.find? (.text key) := by
  rw [merge_recorded, Mapping.find?_insert, if_neg hn, Mapping.find?_insert, if_neg ha]

theorem language_recorded :
    Mapping.get (state.merge (recorded v attempts)) "language" = Mapping.get state "language" := by
  rw [Mapping.get, find?_recorded (by decide) (by decide), Mapping.get]

theorem state_asking (w : Wording) (state : Mapping) : (w.asking state).state = state :=
  Response.state_saying rfl

theorem state_judging (w : Wording) (state : Mapping) : (w.judging state).state = state := by
  refine Response.state_saying ?_
  unfold Wording.settling
  split
  · rfl
  · exact Response.state_saying rfl
  · exact state_asking w state

theorem state_opening (w : Wording) (state : Mapping) :
    ((dialogue w).opening state).state = state :=
  Response.state_saying rfl

theorem state_name (w : Wording) (v : Value) (state : Mapping) :
    ((dialogue w).answer .name v state).state = state.insert (.text "name") v :=
  Response.state_saying (Response.state_saying rfl)

theorem state_language (w : Wording) (v : Value) (state : Mapping) :
    ((dialogue w).answer .language v state).state = state.insert (.text "language") v :=
  Response.state_saying (state_asking w _)

theorem isTextual_dialogue (w : Wording) : (dialogue w).IsTextual where
  opening state hs := by
    rw [state_opening]
    exact hs
  answer p v state hs := by
    cases p with
    | name =>
      rw [state_name]
      exact hs.insert "name" v
    | language =>
      rw [state_language]
      exact hs.insert "language" v
    | question =>
      simp only [dialogue]
      split
      · exact hs
      · rw [state_judging]
        exact hs.merge (isTextual_recorded _ _)

/-- A recording front end takes all that it is told. -/
theorem isReceptive_opened {b : Blueprint} {root id : String} {value : Value} {c₀ : Conversation}
    (hc : Conversation.ofBlueprint b root (some .recording) value id = .ok c₀) :
    c₀.opened.session.IsReceptive := by
  obtain ⟨hfresh, hfront, -⟩ := Conversation.ofBlueprint_ok hc
  obtain ⟨m, keys, hm⟩ := hfresh.outermost
  exact ⟨_, (Conversation.frontEnd_opened hm).trans hfront, fun _ => rfl⟩

namespace Layout.Describes

theorem responds_opening (h : L.Describes w e) (hs : state.IsTextual)
    (hr : e.Hears ((dialogue w).opening state).events) :
    e.Responds 2 (.execute L.askName) state (((dialogue w).opening state).locate L.leaf) := by
  change e.Hears (((dialogue w).opening state).locate L.leaf).events at hr
  rw [dialogue, Response.locate_saying] at hr ⊢
  exact (h.askName.responds_of_asks hs hr).mono (by decide)

theorem responds_name (h : L.Describes w e) (hs : state.IsTextual) (v : Value)
    (hr : e.Hears ((dialogue w).answer .name v state).events) :
    e.Responds 2 (.input L.askName v) state
      (((dialogue w).answer .name v state).locate L.leaf) := by
  have hs' := hs.insert "name" v
  change e.Hears (((dialogue w).answer .name v state).locate L.leaf).events at hr
  simp only [dialogue, Response.locate_saying] at hr ⊢
  exact h.askName.responds_of_next hs rfl (h.respondName.responds_of_passes hs' hr fun hr' =>
    h.respondName.responds_of_next hs' rfl (h.askLanguage.responds_of_asks hs' hr'))

/-- If the front end does not take the greeting, the name is kept, but nothing is said. -/
theorem responds_unsaid (h : L.Describes w e) (hs : state.IsTextual) (v : Value)
    {greeting : Payload} {cause : Fault}
    (hg : hello (state.insert (.text "name") v) = .ok (some greeting))
    (hr : e.session.reception (.output greeting) = .error cause) :
    e.Responds 2 (.input L.askName v) state
      ⟨[], state.insert (.text "name") v, .failed cause⟩ := by
  have hs' := hs.insert "name" v
  exact (h.askName.responds_of_next hs rfl (h.respondName.responds_of_refused hs' hg hr)).mono
    (by decide)

theorem responds_asking (h : L.Describes w e) (hr : e.session.IsReceptive)
    (hs : state.IsTextual) {language : Value}
    (hl : Mapping.get state "language" = language) :
    e.Responds 1 (.execute (L.question language)) state ((w.asking state).locate L.leaf) := by
  have hask := (h.question language).responds_of_asks ⟨hs, hl⟩ (hears_of_isReceptive hr _)
  subst hl
  rw [Wording.asking, Response.locate_saying]
  exact hask

theorem responds_leaving (h : L.Describes w e) (hr : e.session.IsReceptive)
    (hs : state.IsTextual) :
    e.Responds 1 (.execute L.farewell) state ((w.leaving state).locate L.leaf) := by
  rw [Wording.leaving, Response.locate_saying]
  exact h.farewell.responds_of_passes hs (hears_of_isReceptive hr _) fun hr' =>
    h.farewell.responds_of_end hs rfl hr'

theorem responds_judging (h : L.Describes w e) (hr : e.session.IsReceptive)
    (hs : state.IsTextual) {language : Value}
    (hl : Mapping.get state "language" = language) :
    e.Responds 2 (.execute (L.response language)) state ((w.judging state).locate L.leaf) := by
  have hresponse := h.response language
  rw [Wording.judging, Response.locate_saying]
  refine hresponse.responds_of_passes ⟨hs, hl⟩ (hears_of_isReceptive hr _) fun _ => ?_
  rw [Wording.settling]
  cases ho : isOver state with
  | error cause =>
    exact (hresponse.responds_of_error ⟨hs, hl⟩ (by rw [ho]; rfl)).mono (by decide)
  | ok closed =>
    cases closed with
    | true =>
      exact hresponse.responds_of_next ⟨hs, hl⟩ (by rw [ho]; rfl) (h.responds_leaving hr hs)
    | false =>
      exact hresponse.responds_of_next ⟨hs, hl⟩ (by rw [ho]; rfl) (h.responds_asking hr hs hl)

/-- A flow with the leaves of the quiz serves its dialogue, two leaves at most for each call. -/
theorem serves (h : L.Describes w e) (hr : e.session.IsReceptive) :
    e.Serves (dialogue w) L.leaf 2 where
  textual := isTextual_dialogue w
  opening state hs := ⟨_, h.start, h.responds_opening hs (hears_of_isReceptive hr _)⟩
  answer p v state hs := by
    cases p with
    | name =>
      exact h.responds_name hs v (hears_of_isReceptive hr _)
    | language =>
      have hs' := hs.insert "language" v
      simp only [dialogue, Response.locate_saying]
      exact h.askLanguage.responds_of_next hs rfl (h.confirmLanguage.responds_of_passes
        hs' (hears_of_isReceptive hr _) fun _ =>
          h.confirmLanguage.responds_of_next hs' rfl (h.responds_asking hr hs' rfl))
    | question =>
      have hquestion := h.question (Mapping.get state "language")
      simp only [dialogue]
      cases hn : nextAttempt state with
      | error cause =>
        exact (hquestion.responds_of_error ⟨hs, rfl⟩ (by rw [hn]; rfl)).mono (by decide)
      | ok attempts =>
        exact hquestion.responds_of_next ⟨hs, rfl⟩ (by rw [hn]; rfl)
          (h.responds_judging hr (hs.merge (isTextual_recorded v attempts)) language_recorded)

/-- Conversations over such a flow follow the dialogue, if their calls allow 23 tasks. -/
theorem offers {b : Blueprint} {root id : String} {value : Value} {initial : Mapping}
    {c₀ : Conversation} (hv : Mapping.ofValue value = .ok initial) (hs : initial.IsTextual)
    (hc : Conversation.ofBlueprint b root (some .recording) value id = .ok c₀)
    (h : L.Describes w c₀.opened) : c₀.Offers (dialogue w) L.leaf 23 where
  fresh := (Conversation.ofBlueprint_ok hc).1
  frontEnd := (Conversation.ofBlueprint_ok hc).2.1
  turns := (Conversation.ofBlueprint_ok hc).2.2.2.1
  events := (Conversation.ofBlueprint_ok hc).2.2.1
  initial := by
    rw [Conversation.initial_ofBlueprint hv hc]
    exact hs
  serves := ⟨2, h.serves (isReceptive_opened hc), by rw [h.height]; rfl⟩

end Layout.Describes

end Parley.Examples.Quiz

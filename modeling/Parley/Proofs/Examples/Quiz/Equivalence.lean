import Parley.Proofs.Examples.Quiz.Flows
import Parley.Proofs.Examples.Quiz.Judging
import Parley.Proofs.Rendering

/-!
# Two flows of the quiz

The bundled flow and that of the flow file have different trees: the first one has a question and
a response for each language, the second one a question that is a template. They word the
farewell differently, and the question alike as long as the language is one of the two that are
offered (`question_fileWording`). So the same inputs keep conversations over them in step
(`flows_agree`).

In the second flow all texts are templates, so this is about values that can be written. A number of
attempts that has become too large to be written is no exception: no attempt is left then, and the
farewell is a template in both flows (`alike_answer`).
-/

namespace Parley.Examples.Quiz

open Parley Element

variable {state : Mapping} {language name v : Value} {y y' : View Place}

/-! ### Wordings -/

theorem textOf?_eq {key : String} {value : Value} (h : state.find? (.text key) = some value) :
    Transform.textOf? state key = some value.plain := by
  rw [Transform.textOf?, h]
  rfl

/-- The farewell of the bundled flow. -/
def farewellText (name : Value) : Payload :=
  .text ("That’s it from my end. Hope you liked the chat " ++ name.plain)

/-- The farewell of the flow file. -/
def farewellMarkdown (name : Value) : Payload :=
  .markdown ("That’s it from my end. Hope you liked the chat **" ++ name.plain ++ "**")

theorem leaving_wording (hs : state.isWritable = true)
    (h : state.find? (.text "name") = some name) :
    wording.leaving state = ⟨[.output (farewellText name), .ended], state, .ended⟩ := by
  have hrender := Template.render_braced "That’s it from my end. Hope you liked the chat " "name" ""
    (s := "That’s it from my end. Hope you liked the chat $\x7bname\x7d") (by simp) (by simp)
    (by simp) rfl (by simp) (textOf?_eq h)
  rw [leaving_of_isWritable rfl hs, Transform.rendered, hrender, String.append_empty]
  rfl

theorem leaving_fileWording (hs : state.isWritable = true)
    (h : state.find? (.text "name") = some name) :
    fileWording.leaving state = ⟨[.output (farewellMarkdown name), .ended], state, .ended⟩ := by
  have hrender := Template.render_braced
    "That’s it from my end. Hope you liked the chat **" "name" "**"
    (s := "That’s it from my end. Hope you liked the chat **$\x7bname\x7d**") (by simp) (by simp)
    (by simp) rfl (by simp) (textOf?_eq h)
  rw [leaving_of_isWritable rfl hs, Transform.rendered, hrender]
  rfl

/-- A text is shown as it is by both flows, be it fixed or a template. -/
theorem fixedText_fileWording (hs : state.isWritable = true) (words : String)
    (hw : '$' ∉ words.toList) :
    fileWording.fixedText words state = wording.fixedText words state := by
  have hplain : fileWording.fixedText words state =
      .ok (some (.text (Transform.rendered state words))) := if_pos hs
  rw [hplain, Transform.rendered_eq_self hw]
  rfl

/-- If the language is one that is offered, the question is the same. -/
theorem question_fileWording (hw : state.isWritable = true) {s : String} (hs : s ∈ languages)
    (h : state.find? (.text "language") = some (.text s)) :
    fileWording.question state = wording.question state := by
  have hrender : Transform.rendered state "What is 1 + 2 in $\x7blanguage\x7d?" =
      "What is 1 + 2 in " ++ s ++ "?" :=
    Template.render_braced "What is 1 + 2 in " "language" "?" (by simp) (by simp) (by simp) rfl
      (by simp) (textOf?_eq h)
  have hfile : fileWording.question state = .ok (some (.text ("What is 1 + 2 in " ++ s ++ "?"))) :=
    (if_pos hw).trans (by rw [hrender]; rfl)
  have hget : Mapping.get state "language" = .text s := by rw [Mapping.get, h]; rfl
  have hbundled : wording.question state = .ok (some (.text (byLanguage (.text s)
      "What is 1 + 2 in Java?" "What is 1 + 2 in JavaScript?"))) := by
    rw [← hget]
    rfl
  rw [hfile, hbundled]
  rcases List.mem_pair.1 hs with rfl | rfl
  · simp [byLanguage]
  · simp [byLanguage]

/-! ### One answer -/

/-- The state has the name, and one of the languages that are offered, and can be written. -/
structure Knows (name : Value) (state : Mapping) : Prop where
  name : state.find? (.text "name") = some name
  language : ∃ s ∈ languages, state.find? (.text "language") = some (.text s)
  writable : state.isWritable = true

/-- An answer changes neither. -/
theorem Knows.recorded {attempts : Value} (h : Knows name state) (hv : v.isWritable = true)
    (ha : attempts.isWritable = true) : Knows name (state.merge (recorded v attempts)) := by
  obtain ⟨s, hs, hl⟩ := h.language
  exact ⟨(find?_recorded (by decide) (by decide)).trans h.name,
    ⟨s, hs, (find?_recorded (by decide) (by decide)).trans hl⟩,
    isWritable_recorded h.writable hv ha⟩

/-- The events are the same, but for the farewell to the name at the end. -/
def SameUpToFarewell (name : Value) (finished : Bool) (es es' : List Event) : Prop :=
  if finished then ∃ told, es = told ++ [.output (farewellText name), .ended] ∧
    es' = told ++ [.output (farewellMarkdown name), .ended]
  else es' = es

theorem SameUpToFarewell.refl {finished : Bool} {es : List Event} (h : finished = false) :
    SameUpToFarewell name finished es es := by
  rw [h]
  rfl

theorem SameUpToFarewell.append {finished : Bool} {es es' : List Event}
    (h : SameUpToFarewell name finished es es') (told : List Event) :
    SameUpToFarewell name finished (told ++ es) (told ++ es') := by
  cases finished with
  | false => exact congrArg _ h
  | true =>
    obtain ⟨told', rfl, rfl⟩ := h
    exact ⟨told ++ told', by simp, by simp⟩

/-- The responses are the same, but for the farewell. -/
structure Alike (name : Value) (r r' : Response Place) : Prop where
  state : r'.state = r.state
  standing : r'.standing = r.standing
  events : SameUpToFarewell name r.standing.isOver r.events r'.events

theorem Alike.refl {r : Response Place} (h : r.standing.isOver = false) : Alike name r r :=
  ⟨rfl, rfl, .refl h⟩

theorem Alike.after {r r' : Response Place} (h : Alike name r r') (told : List Event) :
    Alike name (r.after told) (r'.after told) :=
  ⟨h.state, h.standing, h.events.append told⟩

theorem Alike.saying {r r' : Response Place} (h : Alike name r r')
    (shows : Mapping → Except Fault (Option Payload)) (state : Mapping) :
    Alike name (r.saying shows state) (r'.saying shows state) := by
  unfold Response.saying
  cases shows state with
  | error cause => exact .refl rfl
  | ok shown => exact h.after _

theorem alike_leaving (h : Knows name state) :
    Alike name (wording.leaving state) (fileWording.leaving state) := by
  rw [leaving_wording h.writable h.name, leaving_fileWording h.writable h.name]
  exact ⟨rfl, rfl, [], rfl, rfl⟩

theorem asking_fileWording (h : Knows name state) :
    fileWording.asking state = wording.asking state := by
  obtain ⟨s, hs, hl⟩ := h.language
  have hshown : fileWording.shown state = wording.shown state := by
    rw [Wording.shown, Wording.shown, question_fileWording h.writable hs hl]
  simp only [Wording.asking, Response.saying, hshown]

theorem isOver_standing_asking (w : Wording) : (w.asking state).standing.isOver = false := by
  unfold Wording.asking Response.saying
  cases w.shown state <;> rfl

theorem alike_settling (h : Knows name state) :
    Alike name (wording.settling state) (fileWording.settling state) := by
  unfold Wording.settling
  rw [asking_fileWording h]
  split
  · exact .refl rfl
  · exact alike_leaving h
  · exact .refl (isOver_standing_asking _)

/-- Where something cannot be written, neither flow can say farewell. -/
theorem alike_settling_of_not_isWritable (hs : state.isWritable = false)
    (ho : isOver state ≠ .ok false) :
    Alike name (wording.settling state) (fileWording.settling state) := by
  unfold Wording.settling
  rw [leaving_of_not_isWritable rfl hs, leaving_of_not_isWritable rfl hs]
  split
  · exact .refl rfl
  · exact .refl rfl
  · exact absurd ‹_› ho

theorem not_isWritable_recorded {attempts : Value} (ha : attempts.isWritable = false) :
    (state.merge (recorded v attempts)).isWritable = false := by
  refine Bool.eq_false_iff.2 fun hs => ?_
  have hget := Mapping.isWritable_get hs "attempts"
  rw [get_recorded_attempts, ha] at hget
  cases hget

/-- Both flows make the same of an answer, but for the farewell. -/
theorem alike_answer (h : Knows name state) (hv : v.isWritable = true) :
    Alike name ((dialogue wording).answer .question v state)
      ((dialogue fileWording).answer .question v state) := by
  simp only [dialogue]
  cases hn : nextAttempt state with
  | error cause => exact .refl rfl
  | ok attempts =>
    refine Alike.saying ?_ _ _
    cases ha : attempts.isWritable with
    | true => exact alike_settling (h.recorded hv ha)
    | false =>
      -- There are too many attempts to be written, so none is left.
      rcases isWritable_nextAttempt h.writable hn with ha' | ⟨k, rfl, hk⟩
      · cases ha.symm.trans ha'
      · exact alike_settling_of_not_isWritable (not_isWritable_recorded ha) (isOver_of_three_le hk)

/-! ### Histories -/

/-- The two views are the same, but for the farewell, and if they wait, it is for an answer. -/
structure InStep (name : Value) (y y' : View Place) : Prop where
  state : y'.state = y.state
  turns : y'.turns = y.turns
  standing : y'.standing = y.standing
  events : SameUpToFarewell name y.standing.isOver y.events y'.events
  knows : ∀ p, y.standing = .waiting p → p = .question ∧ Knows name y.state

theorem of_standing_judging {w : Wording} {p : Place}
    (h : (w.judging state).standing = .waiting p) : p = .question ∧ isOver state = .ok false := by
  have hsettling := Response.standing_of_saying h
  unfold Wording.settling at hsettling
  split at hsettling
  · cases hsettling
  · cases Response.standing_of_saying hsettling
  · cases Response.standing_of_saying hsettling
    exact ⟨rfl, ‹_›⟩

/-- After an answer the quiz waits for another one, if it waits at all. -/
theorem knows_answer {w : Wording} (h : Knows name state) (hv : v.isWritable = true) {p : Place}
    (hp : ((dialogue w).answer .question v state).standing = .waiting p) :
    p = .question ∧ Knows name ((dialogue w).answer .question v state).state := by
  simp only [dialogue] at hp ⊢
  split at hp
  · cases hp
  · rename_i attempts hn
    obtain ⟨rfl, ho⟩ := of_standing_judging hp
    rw [state_judging]
    rcases isWritable_nextAttempt h.writable hn with ha | ⟨k, rfl, hk⟩
    · exact ⟨rfl, h.recorded hv ha⟩
    · exact absurd ho (isOver_of_three_le hk)

/-- An input keeps them so. -/
theorem InStep.deliver (h : InStep name y y') (hv : v.isWritable = true) :
    ((dialogue fileWording).deliver y' v).1 = ((dialogue wording).deliver y v).1 ∧
      InStep name ((dialogue wording).deliver y v).2 ((dialogue fileWording).deliver y' v).2 := by
  cases hst : y.standing with
  | ended | failed cause =>
    simp only [Dialogue.deliver, h.standing, hst]
    exact ⟨trivial, h⟩
  | waiting p =>
    obtain ⟨rfl, hknows⟩ := h.knows p hst
    have halike := alike_answer hknows hv
    have hevents : y'.events = y.events := by
      have := h.events
      rw [hst] at this
      exact this
    simp only [Dialogue.deliver, h.standing, hst, h.state, h.turns, hevents]
    refine ⟨congrArg _ halike.standing, halike.state, rfl, halike.standing, ?_, fun p hp => ?_⟩
    · exact (halike.events.append [Event.input v]).append y.events
    · exact knows_answer hknows hv hp

theorem InStep.deliverAll (h : InStep name y y') {vs : List Value}
    (hvs : ∀ v ∈ vs, v.isWritable = true) :
    (dialogue fileWording).results y' vs = (dialogue wording).results y vs ∧
      InStep name ((dialogue wording).after y vs) ((dialogue fileWording).after y' vs) := by
  induction vs generalizing y y' with
  | nil => exact ⟨rfl, h⟩
  | cons v vs ih =>
    obtain ⟨hv, hvs⟩ := List.forall_mem_cons.1 hvs
    obtain ⟨hresult, hnext⟩ := h.deliver hv
    obtain ⟨hresults, hlast⟩ := ih hnext hvs
    rw [Dialogue.results, Dialogue.results, hresult, hresults]
    exact ⟨rfl, hlast⟩

/-- The two views are the same, but for the farewell to the first input. -/
structure SameView (vs : List Value) (y y' : View Place) : Prop where
  state : y'.state = y.state
  turns : y'.turns = y.turns
  standing : y'.standing = y.standing
  unfinished : y.standing.isOver = false → y'.events = y.events
  finished : y.standing.isOver = true → ∃ told name, vs[0]? = some name ∧
    y.events = told ++ [.output (farewellText name), .ended] ∧
    y'.events = told ++ [.output (farewellMarkdown name), .ended]

theorem SameView.refl {vs : List Value} (h : y.standing.isOver = false) :
    SameView vs y y where
  state := rfl
  turns := rfl
  standing := rfl
  unfinished _ := rfl
  finished ho := by
    rw [h] at ho
    cases ho

theorem InStep.sameView {vs : List Value} (h : InStep name y y') (hvs : vs[0]? = some name) :
    SameView vs y y' where
  state := h.state
  turns := h.turns
  standing := h.standing
  unfinished ho := by
    have hevents := h.events
    rw [ho] at hevents
    exact hevents
  finished ho := by
    have hevents := h.events
    rw [ho] at hevents
    obtain ⟨told, htold⟩ := hevents
    exact ⟨told, name, hvs, htold⟩

/-- The wording does not matter before the question. -/
theorem opening_fileWording (hs : state.isWritable = true) :
    (dialogue fileWording).opening state = (dialogue wording).opening state := by
  simp only [dialogue, Response.saying,
    fixedText_fileWording hs "What is your name?" (by simp)]

theorem start_fileWording (hs : state.isWritable = true) :
    (dialogue fileWording).start state = (dialogue wording).start state := by
  rw [Dialogue.start, opening_fileWording hs, Dialogue.start]

theorem deliver_name (hy : y.standing = .waiting .name) (hs : y.state.isWritable = true)
    (hv : v.isWritable = true) :
    (dialogue fileWording).deliver y v = (dialogue wording).deliver y v := by
  have hs' : (y.state.insert (.text "name") v).isWritable = true := Mapping.isWritable_insert hs hv
  simp only [Dialogue.deliver, hy, dialogue, Response.saying,
    fixedText_fileWording hs' "What are you comfortable with?" (by simp)]

theorem view_deliver_name (hy : y.standing = .waiting .name) (hs : y.state.isWritable = true)
    (hv : v.isWritable = true) :
    ((dialogue wording).deliver y v).2.standing = .waiting .language ∧
      ((dialogue wording).deliver y v).2.state = y.state.insert (.text "name") v := by
  have hs' : (y.state.insert (.text "name") v).isWritable = true := Mapping.isWritable_insert hs hv
  have hhello : hello (y.state.insert (.text "name") v) = .ok (some _) := if_pos hs'
  simp only [Dialogue.deliver, hy, dialogue]
  rw [Response.saying_of_ok hhello]
  exact ⟨rfl, rfl⟩

/-- A language that is offered brings the two views in step. -/
theorem inStep_language (hy : y.standing = .waiting .language) (hw : y.state.isWritable = true)
    (hn : y.state.find? (.text "name") = some name) {s : String} (hs : s ∈ languages) :
    ((dialogue fileWording).deliver y (.text s)).1 = ((dialogue wording).deliver y (.text s)).1 ∧
      InStep name ((dialogue wording).deliver y (.text s)).2
        ((dialogue fileWording).deliver y (.text s)).2 := by
  have hknows : Knows name (y.state.insert (.text "language") (.text s)) := by
    refine ⟨?_, ⟨s, hs, ?_⟩, Mapping.isWritable_insert hw rfl⟩
    · rw [Mapping.find?_insert, if_neg (by decide), hn]
    · rw [Mapping.find?_insert, if_pos rfl]
  have hsame : (dialogue fileWording).deliver y (.text s) =
      (dialogue wording).deliver y (.text s) := by
    simp only [Dialogue.deliver, hy, dialogue, asking_fileWording hknows, Response.saying,
      fixedText_fileWording hknows.writable "Sweet." (by simp)]
  have hstanding : ((dialogue wording).answer .language (.text s) y.state).standing.isOver =
      false := isOver_standing_asking wording
  rw [hsame]
  refine ⟨rfl, rfl, rfl, rfl, ?_, fun p hp => ?_⟩
  · simp only [Dialogue.deliver, hy]
    exact .refl hstanding
  · simp only [Dialogue.deliver, hy, state_language] at hp ⊢
    cases Response.standing_of_saying (Response.standing_of_saying hp)
    exact ⟨rfl, hknows⟩

/-- If all can be written, and the second input is a language that is offered, then the results and
    the views are the same, but for the farewell. -/
theorem results_and_view (hs : state.isWritable = true) {vs : List Value}
    (hw : ∀ v ∈ vs, v.isWritable = true)
    (hvs : ∀ v, vs[1]? = some v → ∃ s ∈ languages, v = .text s) :
    (dialogue fileWording).results ((dialogue fileWording).start state) vs =
        (dialogue wording).results ((dialogue wording).start state) vs ∧
      SameView vs ((dialogue wording).after ((dialogue wording).start state) vs)
        ((dialogue fileWording).after ((dialogue fileWording).start state) vs) := by
  rw [start_fileWording hs]
  have hname : ((dialogue wording).start state).standing = .waiting .name := rfl
  have hstate : ((dialogue wording).start state).state.isWritable = true := hs
  generalize (dialogue wording).start state = y at hname hstate ⊢
  -- The first input is the name, and the second the language. From there on both are in step.
  match vs with
  | [] =>
    simp only [Dialogue.results_nil, Dialogue.after_nil]
    exact ⟨trivial, .refl (by rw [hname]; rfl)⟩
  | name :: vs =>
    obtain ⟨hv, hw⟩ := List.forall_mem_cons.1 hw
    obtain ⟨hlanguage, hnew⟩ := view_deliver_name hname hstate hv
    have hfind : ((dialogue wording).deliver y name).2.state.find? (.text "name") = some name := by
      rw [hnew, Mapping.find?_insert, if_pos rfl]
    have hstate' : ((dialogue wording).deliver y name).2.state.isWritable = true :=
      hnew ▸ Mapping.isWritable_insert hstate hv
    simp only [Dialogue.results_cons, Dialogue.after_cons, deliver_name hname hstate hv]
    generalize ((dialogue wording).deliver y name).2 = y at hlanguage hfind hstate' ⊢
    match vs with
    | [] =>
      simp only [Dialogue.results_nil, Dialogue.after_nil]
      exact ⟨trivial, .refl (by rw [hlanguage]; rfl)⟩
    | language :: vs =>
      obtain ⟨s, hs, rfl⟩ := hvs language rfl
      obtain ⟨hresult, hstep⟩ := inStep_language hlanguage hstate' hfind hs
      obtain ⟨hresults, hlast⟩ := hstep.deliverAll (List.forall_mem_cons.1 hw).2
      simp only [Dialogue.results_cons, Dialogue.after_cons, hresult, hresults]
      exact ⟨trivial, hlast.sameView rfl⟩

/-! ### Conversations -/

/-- The second conversation cannot be told from the first one but for the farewell to the first
    input: a text in the first one, and markdown in the second one. -/
structure SameDialogue (vs : List Value) (c d : Conversation) : Prop where
  state : d.state = c.state
  turns : d.turns = c.turns
  isAwaiting : d.isAwaiting = c.isAwaiting
  isFinished : d.isFinished = c.isFinished
  unfinished : c.isFinished = false → d.scene.events = c.scene.events
  finished : c.isFinished = true → ∃ told name, vs[0]? = some name ∧
    c.scene.events = told ++ [.output (farewellText name), .ended] ∧
    d.scene.events = told ++ [.output (farewellMarkdown name), .ended]

theorem SameView.sameDialogue {vs : List Value} {c d : Conversation} (h : SameView vs y y')
    (hc : c.Looks y) (hd : d.Looks y') : SameDialogue vs c d where
  state := by rw [hc.state, hd.state, h.state]
  turns := by rw [hc.turns, hd.turns, h.turns]
  isAwaiting := by rw [hc.isAwaiting, hd.isAwaiting, h.standing]
  isFinished := by rw [hc.isFinished, hd.isFinished, h.standing]
  unfinished hf := by
    rw [hc.isFinished] at hf
    rw [hc.events, hd.events, h.unfinished hf]
  finished hf := by
    rw [hc.isFinished] at hf
    rw [hc.events, hd.events]
    exact h.finished hf

/-- Let a state have textual keys and values that can be written, and let conversations in this
    state begin over the bundled flow and over the one that the flow file is compiled to. When they
    are started, and the same inputs are handed over to both, all of which can be written and the
    second of which is a language that is offered, then each call has the same result in both, and
    both are the same dialogue, but for the farewell. -/
theorem flows_agree {value : Value} {initial : Mapping} (hv : Mapping.ofValue value = .ok initial)
    (hs : initial.IsTextual) (hw : initial.isWritable = true) (id id' : String) : ∃ b c d,
      Config.ofDocument fileValue = .ok file ∧ file.compile handlers = .ok b ∧
      Conversation.ofBlueprint blueprint root (some .recording) value id = .ok c ∧
      Conversation.ofBlueprint b file.root (some .recording) value id' = .ok d ∧
      ∀ n m vs, 22 ≤ n → 22 ≤ m → (∀ v ∈ vs, v.isWritable = true) →
        (∀ v, vs[1]? = some v → ∃ s ∈ languages, v = .text s) →
        d.results (.start m :: vs.map (.deliver m)) = c.results (.start n :: vs.map (.deliver n)) ∧
        SameDialogue vs ((Entry.start n :: vs.map (.deliver n)).foldl Conversation.enter c)
          ((Entry.start m :: vs.map (.deliver m)).foldl Conversation.enter d) := by
  obtain ⟨c, hc⟩ := exists_bundled hv id
  obtain ⟨b, d, hb, hd⟩ := exists_compiled hv id'
  have hcd := (isBundled_opened hc).describes.offers hv hs hc
  have hdd := (isCompiled_opened hb hd).describes.offers hv hs hd
  refine ⟨b, c, d, ofDocument_fileValue, hb, hc, hd, fun n m vs hn hm hall hvs => ?_⟩
  obtain ⟨hresults, hlooks⟩ := hcd.history (Nat.succ_le_succ hn) vs
  obtain ⟨hresults', hlooks'⟩ := hdd.history (Nat.succ_le_succ hm) vs
  rw [Conversation.initial_ofBlueprint hv hc] at hresults hlooks
  rw [Conversation.initial_ofBlueprint hv hd] at hresults' hlooks'
  obtain ⟨hsame, hview⟩ := results_and_view hw hall hvs
  refine ⟨?_, hview.sameDialogue hlooks hlooks'⟩
  rw [hresults, hresults', hsame, opening_fileWording hw]

/-- They agree on a dialogue with a wrong answer, and with attempts in the state before. -/
theorem flows_agree_on_retry : ∃ b c d,
    file.compile handlers = .ok b ∧
    Conversation.ofBlueprint blueprint root (some .recording)
      (.record [(.text "attempts", .int 1)]) "c" = .ok c ∧
    Conversation.ofBlueprint b file.root (some .recording)
      (.record [(.text "attempts", .int 1)]) "d" = .ok d ∧
    SameDialogue [.text "Ada", .text "Java", .text "5", .text "3"]
      ([Entry.start 22, .deliver 22 (.text "Ada"), .deliver 22 (.text "Java"),
        .deliver 22 (.text "5"), .deliver 22 (.text "3")].foldl Conversation.enter c)
      ([Entry.start 22, .deliver 22 (.text "Ada"), .deliver 22 (.text "Java"),
        .deliver 22 (.text "5"), .deliver 22 (.text "3")].foldl Conversation.enter d) := by
  have hv : Mapping.ofValue (.record [(.text "attempts", .int 1)]) =
      .ok [(.text "attempts", .int 1)] := rfl
  obtain ⟨b, c, d, -, hb, hc, hd, h⟩ := flows_agree hv (by simp [Mapping.IsTextual]) rfl "c" "d"
  have hlanguage : ∀ v, [Value.text "Ada", .text "Java", .text "5", .text "3"][1]? = some v →
      ∃ s ∈ languages, v = .text s := by
    rintro v ⟨⟩
    exact ⟨"Java", by simp [languages], rfl⟩
  exact ⟨b, c, d, hb, hc, hd, (h 22 22 _ le_rfl le_rfl (by simp) hlanguage).2⟩

end Parley.Examples.Quiz

import Parley.Proofs.Examples.Quiz.Equivalence
import Parley.Proofs.Examples.Quiz.Judging

/-!
# Attempts at the question

Once the bundled quiz has a name and a language, every further input is an attempt at its question.
As long as no call fails, the attempts alone tell where a conversation stands (`HasTried`):

* the state has the last answer, and their number;
* the transcript is made of the prologue and of one exchange for each attempt (`transcript`), and
  the question is shown in the prologue only;
* the quiz is over after the right number and after the third one (`isSettled`), and its last words
  are the farewell then.

`HasTried.deliver` is about one more attempt, and `attempts_of_inputs` about a conversation.
-/

namespace Parley.Examples.Quiz

open Parley

/-- An answer that can be read as a number. -/
structure Attempt where
  answer : Value
  number : Binary64
  reads : Answer.number answer = .ok number

variable {name language v : Value} {a : Attempt} {as : List Attempt} {y : View Place}
  {state : Mapping} {i : Nat}

/-! ### The transcript -/

/-- The question, as it is put in a language. -/
def questionText (language : Value) : Payload :=
  .text (byLanguage language "What is 1 + 2 in Java?" "What is 1 + 2 in JavaScript?")

/-- What is told up to the first wait for an answer. -/
def prologue (name language : Value) : List Event :=
  [.output (.text "What is your name?"), .expectation (.freeText defaultMaxLength),
    .input name, .output (.text ("Hello! " ++ name.plain)),
    .output (.text "What are you comfortable with?"), .expectation (.choice languages),
    .input language, .output (.text "Sweet."), .output (questionText language),
    .expectation (.freeText defaultMaxLength)]

/-- What is told of an attempt: the answer, what is said about it, and then the farewell or the wait
    for another one. -/
def exchange (name : Value) (i : Nat) (a : Attempt) : List Event :=
  .input a.answer :: .output (.text (verdict i a.number)) ::
    if isClosed i a.number then [.output (farewellText name), .ended]
    else [.expectation (.freeText defaultMaxLength)]

/-- What is told of a name, of a language and of attempts. -/
def transcript (name language : Value) (as : List Attempt) : List Event :=
  prologue name language ++ (as.mapIdx fun i a => exchange name (i + 1) a).flatten

theorem transcript_concat : transcript name language (as ++ [a]) =
    transcript name language as ++ exchange name (as.length + 1) a := by
  rw [transcript, transcript, List.mapIdx_concat, List.flatten_append, List.flatten_singleton,
    List.append_assoc]

/-- The last attempt has been right, or there is none left. -/
def isSettled (as : List Attempt) : Bool :=
  as.getLast?.any (fun a => isExpected a.number) || as.length = 3

theorem isSettled_concat (h : as.length < 3) :
    isSettled (as ++ [a]) = isClosed (as.length + 1 : Nat) a.number := by
  have hlast : decide ((as ++ [a]).length = 3) = decide ((3 : Int) ≤ (as.length + 1 : Nat)) :=
    decide_eq_decide.2 (by rw [List.length_append, List.length_singleton]; omega)
  rw [isSettled, isClosed, hlast, List.getLast?_concat]
  rfl

/-! ### What is shown -/

/-- What is shown by events. -/
def outputs (es : List Event) : List Payload :=
  es.filterMap fun
    | .output p => some p
    | _ => none

theorem outputs_append (es es' : List Event) : outputs (es ++ es') = outputs es ++ outputs es' :=
  List.filterMap_append

theorem outputs_exchange : outputs (exchange name i a) = .text (verdict i a.number) ::
    if isClosed i a.number then [farewellText name] else [] := by
  rw [exchange]
  cases isClosed i a.number <;> rfl

/-- The words about an answer are some of four. -/
theorem verdict_cases (i : Int) (x : Binary64) : verdict i x = "Correct!" ∨
    verdict i x = "Noted. You are out of attempts." ∨ verdict i x = "You are lower" ∨
    verdict i x = "You are higher" := by
  unfold verdict
  split_ifs <;> simp

theorem ne_append_of_head {s t u : String} {c d : Char} {cs ds : List Char}
    (hs : s.toList = c :: cs) (ht : t.toList = d :: ds) (h : c ≠ d) : s ≠ t ++ u := by
  rintro rfl
  rw [String.toList_append, ht, List.cons_append] at hs
  exact h (List.cons.inj hs).1.symm

theorem questionText_cases (language : Value) :
    questionText language = .text "What is 1 + 2 in Java?" ∨
      questionText language = .text "What is 1 + 2 in JavaScript?" := by
  rcases byLanguage_cases language with h | h
  · exact .inl (congrArg _ (h _ _))
  · exact .inr (congrArg _ (h _ _))

theorem not_mem_outputs_exchange : questionText language ∉ outputs (exchange name i a) := by
  have hverdict : questionText language ≠ .text (verdict i a.number) := by
    rcases questionText_cases language with hq | hq <;>
      rcases verdict_cases i a.number with hv | hv | hv | hv <;> rw [hq, hv] <;> decide
  have hfarewell : questionText language ≠ farewellText name := by
    rcases questionText_cases language with hq | hq <;> rw [hq, farewellText] <;>
      exact fun h => ne_append_of_head rfl rfl (by decide) (Payload.text.inj h)
  rw [outputs_exchange, List.mem_cons, not_or]
  refine ⟨hverdict, ?_⟩
  split_ifs
  · simpa using hfarewell
  · simp

theorem count_prologue :
    (outputs (prologue name language)).count (questionText language) = 1 := by
  have hhello : Payload.text ("Hello! " ++ name.plain) ≠ questionText language := by
    rcases questionText_cases language with hq | hq <;> rw [hq] <;>
      exact fun h => ne_append_of_head rfl rfl (by decide) (Payload.text.inj h).symm
  have hothers : ∀ s ∈ ["What is your name?", "What are you comfortable with?", "Sweet."],
      Payload.text s ≠ questionText language := by
    rcases questionText_cases language with hq | hq <;> rw [hq] <;> decide
  have houtputs : outputs (prologue name language) =
      [.text "What is your name?", .text ("Hello! " ++ name.plain),
        .text "What are you comfortable with?", .text "Sweet.", questionText language] := rfl
  rw [houtputs, List.count_cons_of_ne (hothers _ (by simp)), List.count_cons_of_ne hhello,
    List.count_cons_of_ne (hothers _ (by simp)), List.count_cons_of_ne (hothers _ (by simp)),
    List.count_singleton_self]

/-- The question is shown once, however many attempts are made. -/
theorem count_transcript (as : List Attempt) :
    (outputs (transcript name language as)).count (questionText language) = 1 := by
  induction as using List.reverseRecOn with
  | nil => exact (congrArg _ (congrArg _ (List.append_nil _))).trans count_prologue
  | append_singleton as a ih =>
    rw [transcript_concat, outputs_append, List.count_append, ih,
      List.count_eq_zero_of_not_mem not_mem_outputs_exchange]

/-- Once the question is settled, the farewell has been shown last. -/
theorem getLast?_transcript (h : as.length ≤ 3) (hs : isSettled as = true) :
    (outputs (transcript name language as)).getLast? = some (farewellText name) := by
  cases as using List.reverseRecOn with
  | nil => cases hs
  | append_singleton as a =>
    rw [List.length_append, List.length_singleton] at h
    rw [isSettled_concat (by omega)] at hs
    rw [transcript_concat, outputs_append, outputs_exchange, if_pos hs]
    simp

/-! ### One attempt -/

/-- After a name, a language and some attempts the dialogue stands here. -/
structure HasTried (name language : Value) (as : List Attempt) (y : View Place) : Prop where
  isWritable : name.isWritable = true
  length_le : as.length ≤ 3
  counted : y.state.find? (.text "attempts") = if as.isEmpty then none else some (.int as.length)
  answered : y.state.find? (.text "answer") = as.getLast?.map Attempt.answer
  named : y.state.find? (.text "name") = some name
  turns : y.turns = as.length + 2
  events : y.events = transcript name language as
  standing : y.standing = if isSettled as then .ended else .waiting .question

theorem HasTried.hasMade (h : HasTried name language as y) : HasMade y.state as.length := by
  rw [HasMade, Mapping.get, h.counted]
  cases as with
  | nil => rfl
  | cons a as => exact congrArg Value.whole? (orElse_int _)

theorem hello_eq (hs : state.isWritable = true) (h : state.find? (.text "name") = some name) :
    hello state = .ok (some (.text ("Hello! " ++ name.plain))) := by
  have hrender := Template.render_braced "Hello! " "name" ""
    (s := "Hello! $\x7bname\x7d") (by simp) (by simp) (by simp) rfl (by simp) (textOf?_eq h)
  have hhello : hello state =
      .ok (some (.text (Transform.rendered state "Hello! $\x7bname\x7d"))) := if_pos hs
  rw [hhello, Transform.rendered, hrender, String.append_empty]

/-- What a name comes to in the empty state. -/
theorem answer_name (hw : name.isWritable = true) : (dialogue wording).answer .name name [] =
    ⟨[.output (.text ("Hello! " ++ name.plain)), .output (.text "What are you comfortable with?"),
      .expectation (.choice languages)], [(.text "name", name)], .waiting .language⟩ := by
  have hs : Mapping.isWritable [(.text "name", name)] = true := by simp [Mapping.isWritable, hw]
  exact Response.saying_of_ok (hello_eq hs rfl)

/-- A name that cannot be written is not taken. -/
theorem isWritable_of_answer_name
    (h : ((dialogue wording).answer .name name []).standing.outcome = .ok ()) :
    name.isWritable = true := by
  cases hw : name.isWritable with
  | true => rfl
  | false =>
    have hs : Mapping.isWritable [(.text "name", name)] = false := by simp [Mapping.isWritable, hw]
    have hhello : hello [(.text "name", name)] = .error (.misuse .digits) :=
      if_neg (ne_true_of_eq_false hs)
    have hfails : (dialogue wording).answer .name name [] = ⟨[], _, .failed (.misuse .digits)⟩ :=
      Response.saying_of_error hhello
    rw [hfails] at h
    cases h

/-- Where a name and a language lead from the empty state, if they are taken. -/
theorem hasTried_nothing (language : Value)
    (hok : ((dialogue wording).deliver ((dialogue wording).start []) name).1 = .ok ()) :
    HasTried name language []
      ((dialogue wording).after ((dialogue wording).start []) [name, language]) := by
  have hw : name.isWritable = true := isWritable_of_answer_name hok
  have hname : ((dialogue wording).deliver ((dialogue wording).start []) name).2 =
      ⟨[(.text "name", name)], 1, [.output (.text "What is your name?"),
        .expectation (.freeText defaultMaxLength), .input name,
        .output (.text ("Hello! " ++ name.plain)),
        .output (.text "What are you comfortable with?"), .expectation (.choice languages)],
        .waiting .language⟩ := by
    have hstart : (dialogue wording).start [] = ⟨[], 0, [.output (.text "What is your name?"),
      .expectation (.freeText defaultMaxLength)], .waiting .name⟩ := rfl
    simp only [hstart, Dialogue.deliver, answer_name hw]
    rfl
  rw [Dialogue.after_cons, hname]
  exact ⟨hw, Nat.zero_le _, rfl, rfl, rfl, rfl, rfl, rfl⟩

/-- After an attempt the question is not shown again. -/
theorem asking_recorded (m : Int) (hm : m ≠ 0) :
    wording.asking (state.merge (recorded v (.int m))) =
      ⟨[.expectation (.freeText defaultMaxLength)], state.merge (recorded v (.int m)),
        .waiting .question⟩ := by
  have hfirst : isFirstAttempt (state.merge (recorded v (.int m))) = false := by
    rw [isFirstAttempt, get_recorded_attempts, Value.isTruthy, decide_eq_true hm, Bool.not_true]
  have hshown : wording.shown (state.merge (recorded v (.int m))) = .ok none := by
    rw [Wording.shown, hfirst]
    rfl
  exact Response.saying_of_ok hshown

/-- What comes of a readable answer is what the transcript says of it, if the farewell does not
    fail. -/
theorem judging_attempt (i : Nat) (hn : state.find? (.text "name") = some name) (a : Attempt)
    (hok : (wording.judging (state.merge
      (recorded a.answer (.int (i + 1 : Nat))))).standing.outcome = .ok ()) :
    let state' := state.merge (recorded a.answer (.int (i + 1 : Nat)))
    .input a.answer :: (wording.judging state').events = exchange name (i + 1) a ∧
      (wording.judging state').standing =
        if isClosed (i + 1 : Nat) a.number then .ended else .waiting .question := by
  have hname : (state.merge (recorded a.answer (.int (i + 1 : Nat)))).find? (.text "name") =
      some name := (find?_recorded (by decide) (by decide)).trans hn
  have hi : ((i + 1 : Nat) : Int) ≠ 0 := by omega
  simp only [judging_recorded wording a.reads, exchange] at hok ⊢
  cases hc : isClosed (i + 1 : Nat) a.number with
  | true =>
    rw [hc, if_pos rfl] at hok
    cases hs : (state.merge (recorded a.answer (.int (i + 1 : Nat)))).isWritable with
    | true =>
      simp only [leaving_wording hs hname]
      exact ⟨rfl, rfl⟩
    | false =>
      rw [leaving_of_not_isWritable rfl hs] at hok
      cases hok
  | false =>
    simp only [asking_recorded _ hi]
    exact ⟨rfl, rfl⟩

/-- An input that is taken is one more attempt. -/
theorem HasTried.deliver (h : HasTried name language as y) (v : Value)
    (hok : ((dialogue wording).deliver y v).1 = .ok ()) : ∃ a : Attempt, a.answer = v ∧
      HasTried name language (as ++ [a]) ((dialogue wording).deliver y v).2 := by
  have hstanding := h.standing
  cases hs : isSettled as with
  | true =>
    -- Nothing is taken once the quiz is over.
    rw [hs] at hstanding
    simp [Dialogue.deliver, hstanding] at hok
  | false =>
    rw [hs, if_neg Bool.false_ne_true] at hstanding
    have hlt : as.length < 3 := by
      rw [isSettled, Bool.or_eq_false_iff, decide_eq_false_iff_not] at hs
      exact lt_of_le_of_ne h.length_le hs.2
    simp only [Dialogue.deliver, hstanding, dialogue, h.hasMade.nextAttempt] at hok ⊢
    cases hx : Answer.number v with
    | error cause =>
      -- An answer that cannot be read makes the call fail.
      rw [judging_unreadable wording hx] at hok
      cases hok
    | ok x =>
      obtain ⟨hevents, hstands⟩ := judging_attempt as.length h.named ⟨v, x, hx⟩ hok
      refine ⟨⟨v, x, hx⟩, rfl, h.isWritable, ?_, ?_, ?_, ?_, ?_, ?_, ?_⟩
      · rw [List.length_append, List.length_singleton]
        omega
      · rw [state_judging, merge_recorded, Mapping.find?_insert, if_pos rfl]
        simp
      · rw [state_judging, merge_recorded, Mapping.find?_insert, if_neg (by decide),
          Mapping.find?_insert, if_pos rfl, List.getLast?_concat]
        rfl
      · rw [state_judging, find?_recorded (by decide) (by decide), h.named]
      · rw [h.turns, List.length_append, List.length_singleton]
      · simp only [h.events, transcript_concat, ← hevents]
        rfl
      · rw [isSettled_concat hlt]
        exact hstands

/-- So are further inputs, as long as all of them are taken. -/
theorem HasTried.after (h : HasTried name language as y) (vs : List Value)
    (hok : ∀ r ∈ (dialogue wording).results y vs, r = .ok ()) :
    ∃ bs : List Attempt, bs.map Attempt.answer = vs ∧
      HasTried name language (as ++ bs) ((dialogue wording).after y vs) := by
  induction vs generalizing as y with
  | nil => exact ⟨[], rfl, by rwa [List.append_nil]⟩
  | cons v vs ih =>
    rw [Dialogue.results_cons, List.forall_mem_cons] at hok
    obtain ⟨a, rfl, hnext⟩ := h.deliver v hok.1
    obtain ⟨bs, rfl, hlast⟩ := ih hnext hok.2
    rw [List.append_assoc] at hlast
    exact ⟨a :: bs, rfl, hlast⟩

/-! ### Conversations -/

/-- From outside, a conversation looks like this after a name, a language and some attempts. -/
structure ShowsAttempts (name language : Value) (as : List Attempt) (c : Conversation) : Prop where
  display : name.display = .ok name.plain
  length_le : as.length ≤ 3
  turns : c.turns = as.length + 2
  counted : c.state.find? (.text "attempts") = if as.isEmpty then none else some (.int as.length)
  answered : c.state.find? (.text "answer") = as.getLast?.map Attempt.answer
  events : c.scene.events = transcript name language as
  question : (outputs c.scene.events).count (questionText language) = 1
  isFinished : c.isFinished = isSettled as
  farewell : c.isFinished = true → (outputs c.scene.events).getLast? = some (farewellText name)

theorem HasTried.showsAttempts (h : HasTried name language as y) {c : Conversation}
    (hc : c.Looks y) : ShowsAttempts name language as c := by
  have hevents : c.scene.events = transcript name language as := hc.events.trans h.events
  have hfinished : c.isFinished = isSettled as := by
    rw [hc.isFinished, h.standing]
    cases isSettled as <;> rfl
  refine ⟨Value.display_of_isWritable h.isWritable, h.length_le, hc.turns.trans h.turns, ?_, ?_,
    hevents, ?_, hfinished, fun hf => ?_⟩
  · rw [hc.state, h.counted]
  · rw [hc.state, h.answered]
  · rw [hevents, count_transcript]
  · rw [hevents]
    exact getLast?_transcript h.length_le (hfinished ▸ hf)

/-- Let a conversation over the bundled flow begin in the empty state, and let a name, a language
    and further inputs be handed over to it after the start, so that no call fails. Then the
    further inputs are attempts, and they alone tell what the conversation shows. -/
theorem attempts_of_inputs (id : String) : ∃ c,
    Conversation.ofBlueprint blueprint root (some .recording) (.record []) id = .ok c ∧
    ∀ n name language answers, 22 ≤ n →
      (∀ r ∈ c.results (.start n :: (name :: language :: answers).map (.deliver n)), r = .ok ()) →
      ∃ as : List Attempt, as.map Attempt.answer = answers ∧
        ShowsAttempts name language as
          ((Entry.start n :: (name :: language :: answers).map (.deliver n)).foldl
            Conversation.enter c) := by
  have hv : Mapping.ofValue (.record []) = .ok [] := rfl
  obtain ⟨c, hc⟩ := exists_bundled hv id
  refine ⟨c, hc, fun n name language answers hn hok => ?_⟩
  have hoffers := (isBundled_opened hc).describes.offers hv (by simp [Mapping.IsTextual]) hc
  obtain ⟨hresults, hlooks⟩ := hoffers.history (Nat.succ_le_succ hn) (name :: language :: answers)
  rw [Conversation.initial_ofBlueprint hv hc] at hresults hlooks
  rw [hresults, List.forall_mem_cons, Dialogue.results_cons, List.forall_mem_cons,
    Dialogue.results_cons, List.forall_mem_cons] at hok
  obtain ⟨as, has, htried⟩ := (hasTried_nothing language hok.2.1).after answers hok.2.2.2
  exact ⟨as, has, htried.showsAttempts hlooks⟩

/-- Three attempts: a number that is too high, no answer at all, and a text that is no number. -/
theorem attempts_until_none_is_left : ∃ c,
    Conversation.ofBlueprint blueprint root (some .recording) (.record []) "c" = .ok c ∧
    ∃ as : List Attempt, as.map Attempt.answer = [.text "5", .null, .text "five"] ∧
      ShowsAttempts (.text "Ada") (.text "Java") as
        ([Entry.start 22, .deliver 22 (.text "Ada"), .deliver 22 (.text "Java"),
          .deliver 22 (.text "5"), .deliver 22 .null, .deliver 22 (.text "five")].foldl
            Conversation.enter c) := by
  obtain ⟨c, hc, hattempts⟩ := attempts_of_inputs "c"
  have hv : Mapping.ofValue (.record []) = .ok [] := rfl
  have hoffers := (isBundled_opened hc).describes.offers hv (by simp [Mapping.IsTextual]) hc
  refine ⟨c, hc, hattempts 22 (.text "Ada") (.text "Java") [.text "5", .null, .text "five"]
    le_rfl ?_⟩
  have hresults := (hoffers.history le_rfl [.text "Ada", .text "Java", .text "5", .null,
    .text "five"]).1
  rw [Conversation.initial_ofBlueprint hv hc] at hresults
  have hall : ((dialogue wording).results ((dialogue wording).start []) [.text "Ada",
      .text "Java", .text "5", .null, .text "five"]).all Except.isOk = true := by decide +kernel
  rw [hresults]
  refine List.forall_mem_cons.2 ⟨rfl, fun r hr => ?_⟩
  have hr' := List.all_eq_true.1 hall r hr
  cases r with
  | error cause => cases hr'
  | ok => rfl

end Parley.Examples.Quiz

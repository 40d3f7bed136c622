import Parley.Proofs.Answer
import Parley.Proofs.Examples.Quiz.Flows
import Parley.Proofs.Examples.Quiz.Judging

/-!
# Typed answers to the quiz

The quiz takes up to three answers, and none after the right one (`attempted`). If the inputs are
texts, then nothing but one of these answers can bring it down: one that spells a natural number
too large for a finite one (`run_of_typed_answers`). A conversation that it has brought down is
stalled: it neither waits for another input nor is it finished.
-/

namespace Parley.Examples.Quiz

open Parley

variable {state : Mapping} {s : String} {ss : List String} {v : Value} {x : Binary64} {j k : Nat}
  {y : View Place}

/-! ### One answer -/

/-- The answer is read as the expected number. -/
def isRight (s : String) : Bool :=
  match Answer.number (.text s) with
  | .ok x => x.quantity.same (.ofInt expectedAnswer)
  | .error _ => false

/-- So many attempts have been made. -/
def HasCounted (state : Mapping) (k : Nat) : Prop :=
  (Mapping.get state "attempts").orElse (.int 0) = .int k

theorem hasCounted_recorded : HasCounted (state.merge (recorded v (.int k))) k := by
  rw [HasCounted, get_recorded_attempts, orElse_int]

theorem HasCounted.nextAttempt (h : HasCounted state k) :
    nextAttempt state = .ok (.int (k + 1 : Nat)) := by
  rw [Quiz.nextAttempt, h]
  rfl

theorem exists_number (hs : Answer.isTooLarge s = false) :
    ∃ x, Answer.number (.text s) = .ok x := by
  cases hn : Answer.number (.text s) with
  | ok x => exact ⟨x, rfl⟩
  | error cause =>
    have htoo := ((Answer.number_eq_error_iff s cause).1 hn).2
    rw [hs] at htoo
    cases htoo

theorem isExpected_eq (hx : Answer.number (.text s) = .ok x) : isExpected x = isRight s := by
  rw [isRight, hx]
  rfl

theorem standing_asking : (wording.asking state).standing = .waiting .question := by
  unfold Wording.asking Response.saying Wording.shown
  cases isFirstAttempt state <;> rfl

theorem standing_leaving (hs : state.isWritable = true) :
    (wording.leaving state).standing = .ended := by
  rw [leaving_of_isWritable rfl hs]

/-- A typed answer brings the quiz down if it is too large, and ends it if it is right or the last
    one. -/
theorem standing_of_typed (hs : (state.merge (recorded (.text s) (.int k))).isWritable = true) :
    (wording.judging (state.merge (recorded (.text s) (.int k)))).standing =
      if Answer.isTooLarge s then .failed (.misuse .overflow)
      else if isRight s || decide (3 ≤ k) then .ended else .waiting .question := by
  cases hlarge : Answer.isTooLarge s with
  | true =>
    rw [judging_unreadable wording ((Answer.number_eq_error_iff s .overflow).2 ⟨rfl, hlarge⟩)]
    rfl
  | false =>
    obtain ⟨x, hx⟩ := exists_number hlarge
    have hlast : decide ((3 : Int) ≤ k) = decide (3 ≤ k) := decide_eq_decide.2 (by omega)
    rw [judging_recorded wording hx, isClosed, isExpected_eq hx, hlast]
    cases isRight s || decide (3 ≤ k) with
    | true => exact standing_leaving hs
    | false => exact standing_asking

/-! ### A run -/

/-- The answers that are judged, if so many attempts are left: none after the right one. -/
def attempted : Nat → List String → List String
  | 0, _ | _, [] => []
  | k + 1, s :: ss => s :: if isRight s then [] else attempted k ss

/-- The quiz waits for an answer, and so many attempts have been made. -/
structure Asks (y : View Place) (k : Nat) : Prop where
  standing : y.standing = .waiting .question
  counted : HasCounted y.state k
  writable : y.state.isWritable = true

/-- A typed answer is counted and judged. -/
theorem Asks.deliver (h : Asks y k) (hk : k < 3) (s : String) :
    HasCounted ((dialogue wording).deliver y (.text s)).2.state (k + 1) ∧
      ((dialogue wording).deliver y (.text s)).2.state.isWritable = true ∧
      ((dialogue wording).deliver y (.text s)).2.standing =
        if Answer.isTooLarge s then .failed (.misuse .overflow)
        else if isRight s || decide (3 ≤ k + 1) then .ended else .waiting .question := by
  have hcount : Value.isWritable (.int (k + 1 : Nat)) = true := Text.isWritable_of_lt (by omega)
  have hs : (y.state.merge (recorded (.text s) (.int (k + 1 : Nat)))).isWritable = true :=
    isWritable_recorded h.writable rfl hcount
  simp only [Dialogue.deliver, h.standing, dialogue, h.counted.nextAttempt, state_judging]
  exact ⟨hasCounted_recorded, hs, standing_of_typed hs⟩

/-- The answers that are judged bring the quiz down if one of them is too large. -/
theorem Asks.outcome_run (h : Asks y k) (hj : k + (j + 1) = 3) (ss : List String) :
    ((dialogue wording).run y (ss.map .text)).2.standing.outcome =
      if (attempted (j + 1) ss).any Answer.isTooLarge then .error (.misuse .overflow)
      else .ok () := by
  induction ss generalizing y k j with
  | nil =>
    rw [List.map_nil, Dialogue.run, h.standing]
    rfl
  | cons s ss ih =>
    -- Where the quiz stands after the first answer decides whether the others are handed over.
    obtain ⟨hcounted, hwritable, hstanding⟩ := h.deliver (by omega) s
    have hrun := Dialogue.run_of_waiting (d := dialogue wording) h.standing (.text s) (ss.map .text)
    rw [Dialogue.outcome_deliver h.standing] at hrun
    rw [List.map_cons, hrun, attempted, List.any_cons]
    cases hs : Answer.isTooLarge s with
    | true =>
      rw [hs, if_pos rfl] at hstanding
      rw [hstanding]
      exact congrArg Standing.outcome hstanding
    | false =>
      rw [hs, if_neg (by decide)] at hstanding
      by_cases hover : isRight s || decide (3 ≤ k + 1)
      · -- The answer is right, or there is no attempt left.
        rw [if_pos hover] at hstanding
        have hnone : (if isRight s then [] else attempted j ss) = [] := by
          cases hr : isRight s with
          | true => rfl
          | false =>
            rw [hr, Bool.false_or, decide_eq_true_eq] at hover
            obtain rfl : j = 0 := by omega
            rfl
        rw [hnone, hstanding]
        simp only [Standing.outcome, Dialogue.run_of_ended hstanding, hstanding]
        rfl
      · rw [if_neg hover] at hstanding
        simp only [Bool.or_eq_true, decide_eq_true_eq, not_or, Bool.not_eq_true] at hover
        obtain ⟨i, rfl⟩ : ∃ i, j = i + 1 := ⟨j - 1, by omega⟩
        rw [hover.1, hstanding]
        exact ih ⟨hstanding, hcounted, hwritable⟩ (by omega)

/-- A run from the empty state fails if one of the answers that are judged is too large. -/
theorem outcome_of_typed (inputs : List String) :
    ((dialogue wording).perform [] (inputs.map .text)).2.standing.outcome =
      if (attempted 3 (inputs.drop 2)).any Answer.isTooLarge then .error (.misuse .overflow)
      else .ok () := by
  match inputs with
  | [] | [_] => rfl
  | name :: language :: ss =>
    have hperform : (dialogue wording).perform [] ((name :: language :: ss).map .text) =
        (dialogue wording).run ((dialogue wording).start [])
          (.text name :: .text language :: ss.map .text) := rfl
    have hasks : Asks ((dialogue wording).after ((dialogue wording).start [])
        [.text name, .text language]) 0 := ⟨rfl, rfl, rfl⟩
    rw [hperform, Dialogue.run_of_ok (p := Place.name) rfl rfl,
      Dialogue.run_of_ok (p := Place.language) rfl rfl]
    exact hasks.outcome_run (j := 2) rfl ss

/-! ### Conversations -/

/-- What a call has come to that has judged some answers: if one of them is too large, then the
    call has failed, and the conversation neither waits for an input nor is it finished. -/
structure HasJudged (answers : List String) (r : Except Fault Unit × Conversation) : Prop where
  result : r.1 = if answers.any Answer.isTooLarge then .error (.misuse .overflow) else .ok ()
  goesOn : (r.2.isAwaiting || r.2.isFinished) = r.1.isOk

theorem hasJudged_run {c : Conversation} {id : String} {n : Nat}
    (hc : Conversation.ofBlueprint blueprint root (some .recording) (.record []) id = .ok c)
    (hn : 22 ≤ n) (inputs : List String) :
    HasJudged (attempted 3 (inputs.drop 2)) ((Request.run n (inputs.map .text)).turn c) := by
  have hv : Mapping.ofValue (.record []) = .ok [] := rfl
  have hd := (isBundled_opened hc).describes.offers hv (by simp [Mapping.IsTextual]) hc
  obtain ⟨hresult, hlooks⟩ := hd.run (Nat.succ_le_succ hn) (inputs.map .text)
  rw [Conversation.initial_ofBlueprint hv hc] at hresult hlooks
  have houtcome := (dialogue wording).outcome_perform [] (inputs.map .text)
  refine ⟨hresult.trans (houtcome.trans (outcome_of_typed inputs)), ?_⟩
  rw [hlooks.isAwaiting, hlooks.isFinished, Standing.isWaiting_or_isOver, hresult, houtcome]

/-- Let a conversation over the bundled flow begin in the empty state, and let texts be handed over
    to it. Each of them is read as a number, unless it is too large, and the run fails if and only
    if such an answer is judged. -/
theorem run_of_typed_answers (id : String) :
    (∀ s cause, Answer.number (.text s) = .error cause ↔
      cause = .overflow ∧ Answer.isTooLarge s = true) ∧
    ∃ c, Conversation.ofBlueprint blueprint root (some .recording) (.record []) id = .ok c ∧
      ∀ n (inputs : List String), 22 ≤ n →
        HasJudged (attempted 3 (inputs.drop 2)) ((Request.run n (inputs.map .text)).turn c) := by
  obtain ⟨c, hc⟩ := exists_bundled (rfl : Mapping.ofValue (.record []) = .ok []) id
  exact ⟨Answer.number_eq_error_iff, c, hc, fun n inputs hn => hasJudged_run hc hn inputs⟩

/-- A run in which a wrong answer and the right one are judged. -/
theorem run_of_two_answers : ∃ c,
    Conversation.ofBlueprint blueprint root (some .recording) (.record []) "c" = .ok c ∧
    HasJudged (attempted 3 ["5", "3"])
      ((Request.run 22 [.text "Ada", .text "Java", .text "5", .text "3"]).turn c) := by
  obtain ⟨-, c, hc, hrun⟩ := run_of_typed_answers "c"
  exact ⟨c, hc, hrun 22 ["Ada", "Java", "5", "3"] le_rfl⟩

/-- An answer of 256 hexadecimal digits is too large: the run fails, and the conversation is
    stalled. -/
theorem run_of_large_answer : ∃ c,
    Conversation.ofBlueprint blueprint root (some .recording) (.record []) "c" = .ok c ∧
    ∃ c', (Request.run 22 [.text "Ada", .text "Java", .text (Answer.hexadecimal 256)]).turn c =
        (.error (.misuse .overflow), c') ∧ c'.isAwaiting = false ∧ c'.isFinished = false := by
  obtain ⟨c, hc⟩ := exists_bundled (rfl : Mapping.ofValue (.record []) = .ok []) "c"
  obtain ⟨hresult, hflags⟩ := hasJudged_run hc le_rfl ["Ada", "Java", Answer.hexadecimal 256]
  have hlarge : (attempted 3 [Answer.hexadecimal 256]).any Answer.isTooLarge = true := by
    rw [attempted, List.any_cons, Answer.isTooLarge_hexadecimal, Bool.true_or]
  replace hresult := hresult.trans (if_pos hlarge)
  rw [hresult] at hflags
  exact ⟨c, hc, _, Prod.ext hresult rfl, Bool.or_eq_false_iff.1 hflags⟩

end Parley.Examples.Quiz

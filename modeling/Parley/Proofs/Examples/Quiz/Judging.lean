import Parley.Proofs.Examples.Quiz.Dialogue
import Parley.Proofs.Value.Writing

/-!
# How the quiz judges an answer

What comes of an answer is settled by two handlers, each with a condition of its own: one finds the
words that are said about it, and the other one goes back to the question or leaves it. Both read
the answer that has been stored, and the number of attempts that have been counted by then
(`HasMade`). So what they find depends on this number and on the number that the answer is read as
(`verdict`, `isClosed`), and an answer that cannot be read brings the quiz down:

* `feedback_recorded`, `isOver_recorded`: what the two handlers find;
* `judging_recorded`, `judging_unreadable`: what comes of the answer;
* `isWritable_nextAttempt`, `leaving_of_isWritable`: the attempts can be written while the question
  is open, and the farewell is shown where all in the state can be.
-/

namespace Parley.Examples.Quiz

open Parley

variable {state : Mapping} {v attempts : Value} {x : Binary64} {m : Int} {k : Nat} {cause : Misuse}
  {w : Wording}

/-- The number is the expected one. -/
def isExpected (x : Binary64) : Bool :=
  x.quantity.same (.ofInt 3)

/-- What is said about a number at an attempt. -/
def verdict (attempt : Int) (x : Binary64) : String :=
  if isExpected x then "Correct!"
  else if attempt = 3 then "Noted. You are out of attempts."
  else if x.quantity.less (.ofInt 3) then "You are lower"
  else "You are higher"

/-- The question is left after a number at an attempt. -/
def isClosed (attempt : Int) (x : Binary64) : Bool :=
  isExpected x || decide (3 ≤ attempt)

/-! ### Attempts -/

/-- So many attempts have been made; nothing at all counts as none. -/
def HasMade (state : Mapping) (m : Int) : Prop :=
  ((Mapping.get state "attempts").orElse (.int 0)).whole? = some m

theorem orElse_int (m : Int) : (Value.int m).orElse (.int 0) = .int m := by
  by_cases h : m = 0 <;> simp [Value.orElse, Value.isTruthy, h]

theorem HasMade.nextAttempt (h : HasMade state m) : nextAttempt state = .ok (.int (m + 1)) := by
  rw [Quiz.nextAttempt, Value.add, h]
  rfl

theorem get_recorded_answer :
    Mapping.get (state.merge (recorded v attempts)) "answer" = v := by
  rw [merge_recorded, Mapping.get_insert_of_ne (by decide), Mapping.get_insert_self]

theorem get_recorded_attempts :
    Mapping.get (state.merge (recorded v attempts)) "attempts" = attempts := by
  rw [merge_recorded, Mapping.get_insert_self]

theorem hasMade_recorded : HasMade (state.merge (recorded v (.int m))) m := by
  rw [HasMade, get_recorded_attempts, orElse_int]
  rfl

/-! ### The two handlers -/

theorem answer_recorded :
    answer (state.merge (recorded v attempts)) = orMisuse (Answer.number v) := by
  rw [answer, get_recorded_answer]

theorem isCorrect_recorded (hx : Answer.number v = .ok x) :
    isCorrect (state.merge (recorded v attempts)) = .ok (isExpected x) := by
  rw [isCorrect, answer_recorded, hx]
  rfl

theorem isLastAttempt_recorded :
    isLastAttempt (state.merge (recorded v (.int m))) = decide (m = 3) := by
  rw [isLastAttempt, get_recorded_attempts]
  exact Quantity.same_ofInt

theorem feedback_recorded (hx : Answer.number v = .ok x) :
    feedback (state.merge (recorded v (.int m))) = .ok (verdict m x) := by
  have hanswer : answer (state.merge (recorded v (.int m))) = .ok x := by
    rw [answer_recorded, hx]
    rfl
  rw [feedback, isCorrect_recorded hx, isLastAttempt_recorded, hanswer, verdict]
  cases isExpected x with
  | true => rfl
  | false =>
    by_cases hm : m = 3
    · rw [if_pos hm, decide_eq_true hm]
      rfl
    · rw [if_neg hm, decide_eq_false hm]
      cases hless : x.quantity.less (.ofInt 3) <;>
        simp [bind, Except.bind, pure, Except.pure, expectedAnswer, hless]

theorem isAtLeast_int (a b : Int) : (Value.int a).isAtLeast (.int b) = .ok (decide (b ≤ a)) := by
  simp only [Value.isAtLeast, Value.quantity?, Quantity.atMost, Quantity.less_ofInt,
    Quantity.same_ofInt, Except.ok.injEq, ← Bool.decide_or, decide_eq_decide]
  omega

theorem isOver_recorded (hx : Answer.number v = .ok x) :
    isOver (state.merge (recorded v (.int m))) = .ok (isClosed m x) := by
  rw [isOver, isCorrect_recorded hx, get_recorded_attempts, orElse_int, isAtLeast_int, isClosed]
  cases isExpected x <;> rfl

/-- After three attempts the question is not open any more. -/
theorem isOver_of_three_le (hm : 3 ≤ m) :
    isOver (state.merge (recorded v (.int m))) ≠ .ok false := by
  have hlast : decide (maxAttempts ≤ m) = true := decide_eq_true hm
  rw [isOver, get_recorded_attempts, orElse_int, isAtLeast_int, hlast]
  rcases isCorrect (state.merge (recorded v (.int m))) with cause | correct
  · exact nofun
  · cases correct <;> exact nofun

/-! ### What comes of an answer -/

/-- The words about the answer, and then the farewell or the wait for another answer. -/
theorem judging_recorded (w : Wording) (hx : Answer.number v = .ok x) :
    w.judging (state.merge (recorded v (.int m))) =
      (if isClosed m x then w.leaving (state.merge (recorded v (.int m)))
        else w.asking (state.merge (recorded v (.int m)))).after
          [.output (.text (verdict m x))] := by
  have hjudged : Wording.judged (state.merge (recorded v (.int m))) =
      .ok (some (.text (verdict m x))) := by
    rw [Wording.judged, feedback_recorded hx]
    rfl
  rw [Wording.judging, Response.saying_of_ok hjudged, Wording.settling, isOver_recorded hx]
  cases isClosed m x <;> rfl

/-- An answer that cannot be read fails the feedback. -/
theorem judging_unreadable (w : Wording) (hx : Answer.number v = .error cause) :
    w.judging (state.merge (recorded v attempts)) =
      ⟨[], state.merge (recorded v attempts), .failed (.misuse cause)⟩ := by
  have hfeedback : feedback (state.merge (recorded v attempts)) = .error (.misuse cause) := by
    rw [feedback, isCorrect, answer_recorded, hx]
    rfl
  exact Response.saying_of_error (by rw [Wording.judged, hfeedback]; rfl)

/-! ### What can be written -/

theorem isWritable_of_number (hx : Answer.number v = .ok x) : v.isWritable = true := by
  cases hw : v.isWritable with
  | true => rfl
  | false =>
    rw [Answer.number, Value.display_of_not_isWritable hw] at hx
    cases v <;> cases hx
    cases hw

theorem isWritable_recorded (hs : state.isWritable = true) (hv : v.isWritable = true)
    (ha : attempts.isWritable = true) : (state.merge (recorded v attempts)).isWritable = true := by
  rw [merge_recorded]
  exact Mapping.isWritable_insert (Mapping.isWritable_insert hs hv) ha

/-- One more than an integer that can be written can be written too, unless it is large. -/
theorem isWritable_succ (h : Text.isWritable m = true) :
    Text.isWritable (m + 1) = true ∨ 3 ≤ m + 1 := by
  have hten : 10 ^ 1 ≤ 10 ^ Text.maxDigits := Nat.pow_le_pow_right (by decide) (by decide)
  rw [Text.isWritable_iff] at h ⊢
  generalize 10 ^ Text.maxDigits = bound at h hten ⊢
  omega

theorem isWritable_whole {a : Value} (ha : a.isWritable = true) (h : a.whole? = some m) :
    Text.isWritable m = true := by
  cases a with
  | bool b =>
    cases h
    cases b <;> rfl
  | int n =>
    cases h
    exact ha
  | _ => cases h

theorem isWritable_attempts (hs : state.isWritable = true) :
    ((Mapping.get state "attempts").orElse (.int 0)).isWritable = true := by
  unfold Value.orElse
  split
  · exact Mapping.isWritable_get hs _
  · rfl

/-- In a state that can be written, the number of attempts can be written too after one more,
    unless there is none left. -/
theorem isWritable_nextAttempt (hs : state.isWritable = true)
    (h : nextAttempt state = .ok attempts) :
    attempts.isWritable = true ∨ ∃ k, attempts = .int k ∧ 3 ≤ k := by
  have hold := isWritable_attempts hs
  rw [Quiz.nextAttempt] at h
  generalize (Mapping.get state "attempts").orElse (.int 0) = a at h hold
  cases hk : a.whole? with
  | none =>
    -- The sum is a floating-point number.
    simp only [Value.add, hk] at h
    generalize (Value.int 1).toBinary64 = one at h
    cases hb : a.toBinary64 with
    | error cause =>
      rw [hb] at h
      cases h
    | ok b =>
      rw [hb] at h
      cases one <;> cases h
      exact .inl rfl
  | some k =>
    simp only [Value.add, hk] at h
    cases h
    exact (isWritable_succ (isWritable_whole hold hk)).imp_right fun hle => ⟨_, rfl, hle⟩

/-- The farewell is shown where all in the state can be written. -/
theorem leaving_of_isWritable {words : String} (hf : w.farewell.text? = some words)
    (hs : state.isWritable = true) : w.leaving state =
      ⟨[.output (w.farewell.withText (Transform.rendered state words)), .ended], state,
        .ended⟩ := by
  have hbye : w.bye state = .ok (some (w.farewell.withText (Transform.rendered state words))) := by
    simp only [Wording.bye, Transform.template, hf, hs, if_true]
  rw [Wording.leaving, Response.saying_of_ok hbye]
  rfl

theorem leaving_of_not_isWritable {words : String} (hf : w.farewell.text? = some words)
    (hs : state.isWritable = false) :
    w.leaving state = ⟨[], state, .failed (.misuse .digits)⟩ := by
  have hbye : w.bye state = .error (.misuse .digits) := by
    simp only [Wording.bye, Transform.template, hf, hs, Bool.false_eq_true, if_false]
  rw [Wording.leaving, Response.saying_of_error hbye]

end Parley.Examples.Quiz

import Parley.Proofs.Conversation.Unordered
import Parley.Proofs.Examples.Quiz.Flows
import Parley.Proofs.Examples.Quiz.Judging

/-!
# What the quiz says and what it does

The words about an answer and the way that the quiz takes after it are found by two handlers. The
first one asks whether this has been exactly the last attempt, and the other one whether it has been
the last one at least. So the two are at odds where more attempts have been counted than there are
(`verdict_agrees_iff`), and a conversation can come to this only if it has begun so: at an
unexpected number the quiz gives a hint, as if it went on, and takes its leave
(`words_agree_with_way`).
-/

namespace Parley.Examples.Quiz

open Parley Element

variable {value v name language : Value} {initial : Mapping} {id : String} {m k : Int}
  {x : Binary64} {c c' c₀ : Conversation} {y : View Place} {w : Wording} {L : Layout} {n : Nat}
  {r : Except Fault Unit}

/-! ### The two handlers -/

/-- The words with which the quiz leaves the question. -/
def closings : List String := ["Correct!", "Noted. You are out of attempts."]

/-- The words after which it waits for another answer. -/
def hints : List String := ["You are lower", "You are higher"]

theorem verdict_mem_closings : verdict k x ∈ closings ↔ isExpected x = true ∨ k = 3 := by
  unfold verdict
  split_ifs with hx hk hless <;> simp [closings, *]

theorem verdict_mem_hints : verdict k x ∈ hints ↔ ¬(isExpected x = true ∨ k = 3) := by
  unfold verdict
  split_ifs with hx hk hless <;> simp [hints, *]

theorem isClosed_iff : isClosed k x = true ↔ isExpected x = true ∨ 3 ≤ k := by
  rw [isClosed, Bool.or_eq_true, decide_eq_true_eq]

/-- After so many attempts, the words about the next one agree with the way that is taken if and
    only if there is one left, or the number is the expected one. -/
theorem verdict_agrees_iff :
    ((verdict (k + 1) x ∈ closings ↔ isClosed (k + 1) x = true) ∧
      (verdict (k + 1) x ∈ hints ↔ isClosed (k + 1) x = false)) ↔
    k < 3 ∨ isExpected x = true := by
  rw [verdict_mem_closings, verdict_mem_hints, ← Bool.not_eq_true, isClosed_iff, not_iff_not,
    and_self]
  by_cases hx : isExpected x = true
  · simp [hx]
  · simp only [hx, Bool.false_eq_true, false_or, or_false]
    omega

/-! ### Attempts in a dialogue -/

theorem HasMade.insert {state : Mapping} {key : String} (h : HasMade state m)
    (hkey : key ≠ "attempts") (v : Value) : HasMade (state.insert (.text key) v) m := by
  rw [HasMade, Mapping.get_insert_of_ne hkey]
  exact h

/-- What the wordings of the two flows have in common: the farewell is made from a text, and the
    question can be put where a fixed text has been shown, and as long as attempts are left. -/
structure Wording.Endures (w : Wording) : Prop where
  farewell : ∃ words, w.farewell.text? = some words
  opens : ∀ state words shown, w.fixedText words state = .ok shown →
    ∃ shown, w.question state = .ok shown
  stays : ∀ state k v shown, w.question state = .ok shown → HasMade state k → k + 1 < 3 →
    v.isWritable = true → ∃ shown, w.question (state.merge (recorded v (.int (k + 1)))) = .ok shown

theorem endures_wording : wording.Endures where
  farewell := ⟨_, rfl⟩
  opens _ _ _ _ := ⟨_, rfl⟩
  stays _ _ _ _ _ _ _ _ := ⟨_, rfl⟩

/-- A template can be shown in states that can be written only. -/
theorem isWritable_of_template {state : Mapping} {words : String} {shown : Option Payload}
    (h : Transform.template state (some (.text words)) = .ok shown) : state.isWritable = true := by
  cases hs : state.isWritable with
  | true => rfl
  | false =>
    have hfails : Transform.template state (some (.text words)) = .error (.misuse .digits) :=
      if_neg (ne_true_of_eq_false hs)
    cases hfails.symm.trans h

theorem endures_fileWording : fileWording.Endures where
  farewell := ⟨_, rfl⟩
  opens _ _ _ h := ⟨_, if_pos (isWritable_of_template h)⟩
  stays state k v shown h hk hleft hv := by
    have hs : state.isWritable = true := isWritable_of_template h
    have hcount : Value.isWritable (.int (k + 1)) = true :=
      (isWritable_succ (isWritable_whole (isWritable_attempts hs) hk)).resolve_right (by omega)
    exact ⟨_, if_pos (isWritable_recorded hs hv hcount)⟩

/-- If the dialogue waits, it is for an answer to a question that can be put, and there is an
    attempt left if and only if there was one at the beginning. -/
def CountsFrom (w : Wording) (m : Int) (y : View Place) : Prop :=
  ∀ p, y.standing = .waiting p → p = .question ∧ (∃ shown, w.question y.state = .ok shown) ∧
    ∃ k, HasMade y.state k ∧ (k < 3 ↔ m < 3)

/-- What an answer comes to that can be read. -/
theorem deliver_readable (hy : y.standing = .waiting .question) (hk : HasMade y.state k)
    (hx : Answer.number v = .ok x) :
    let state' := y.state.merge (recorded v (.int (k + 1)))
    let r := if isClosed (k + 1) x then w.leaving state' else w.asking state'
    (dialogue w).deliver y v = (r.standing.outcome, ⟨r.state, y.turns + 1,
      y.events ++ [.input v, .output (.text (verdict (k + 1) x))] ++ r.events, r.standing⟩) := by
  simp only [Dialogue.deliver, hy, dialogue, hk.nextAttempt, judging_recorded w hx, Response.after,
    List.append_assoc]
  rfl

theorem countsFrom_language (hw : w.Endures) (hm : HasMade initial m) (name language : Value) :
    CountsFrom w m ((dialogue w).after ((dialogue w).start initial) [name, language]) := by
  intro p hp
  -- It waits for a language, if it waits then, and for a name before.
  obtain ⟨q, hq, hlanguage, hstate⟩ := Dialogue.exists_of_deliver hp
  obtain ⟨q', hq', hname, hstate'⟩ := Dialogue.exists_of_deliver hq
  cases Response.standing_of_saying hq'
  cases Response.standing_of_saying (Response.standing_of_saying hname)
  obtain ⟨shown, hshown, hasking⟩ := Response.exists_of_saying hlanguage
  cases Response.standing_of_saying hasking
  have hopening : ((dialogue w).start initial).state = initial := state_opening w initial
  rw [state_language, hstate', state_name, hopening] at hstate
  rw [hstate', state_name, hopening] at hshown
  have hafter : ((dialogue w).after ((dialogue w).start initial) [name, language]).state =
      (initial.insert (.text "name") name).insert (.text "language") language := hstate
  refine ⟨rfl, ?_, m, ?_, Iff.rfl⟩ <;> rw [hafter]
  · exact hw.opens _ _ _ hshown
  · exact (hm.insert (by decide) name).insert (by decide) language

theorem CountsFrom.deliver (h : CountsFrom w m y) (hw : w.Endures) (v : Value) :
    CountsFrom w m ((dialogue w).deliver y v).2 := by
  cases hst : y.standing with
  | ended | failed cause =>
    simp only [Dialogue.deliver, hst]
    exact h
  | waiting p =>
    obtain ⟨rfl, ⟨shown, hput⟩, k, hk, hkm⟩ := h p hst
    cases hx : Answer.number v with
    | error cause =>
      simp only [Dialogue.deliver, hst, dialogue, hk.nextAttempt, judging_unreadable w hx]
      rintro p ⟨⟩
    | ok x =>
      rw [deliver_readable hst hk hx]
      cases hc : isClosed (k + 1) x with
      | true =>
        intro p hp
        cases Response.standing_of_saying hp
      | false =>
        -- The question is not over, so there is another attempt.
        intro p hp
        cases Response.standing_of_saying hp
        have hopen := mt isClosed_iff.2 (Bool.not_eq_true _ ▸ hc)
        rw [not_or] at hopen
        have hstate : (w.asking (y.state.merge (recorded v (.int (k + 1))))).state = _ :=
          state_asking w _
        simp only [Bool.false_eq_true, if_false, hstate]
        exact ⟨trivial, hw.stays _ _ _ _ hput hk (by omega) (isWritable_of_number hx), k + 1,
          hasMade_recorded, by omega⟩

theorem CountsFrom.after (h : CountsFrom w m y) (hw : w.Endures) (vs : List Value) :
    CountsFrom w m ((dialogue w).after y vs) := by
  induction vs generalizing y with
  | nil => exact h
  | cons v vs ih => exact ih (h.deliver hw v)

/-! ### Conversations -/

/-- A new conversation over one of the two flows of the quiz. -/
inductive IsNewQuiz (value : Value) (id : String) : Conversation → Prop
  | bundled {c : Conversation} :
      Conversation.ofBlueprint blueprint root (some .recording) value id = .ok c →
      IsNewQuiz value id c
  | compiled {b : Blueprint} {c : Conversation} : file.compile handlers = .ok b →
      Conversation.ofBlueprint b file.root (some .recording) value id = .ok c →
      IsNewQuiz value id c

theorem IsBundled.storesFirst {e : Element} (h : IsBundled e) (hr : e.session.IsReceptive) :
    e.StoresFirst layout.askName where
  receptive := hr
  starts := h.describes.start
  nested := List.cons_ne_nil _ _
  exists_leaf := ⟨_, _, _, "respond_name", "name", h.askName, fun _ _ => rfl⟩

theorem IsCompiled.storesFirst {e : Element} (h : IsCompiled e) (hr : e.session.IsReceptive) :
    e.StoresFirst fileLayout.askName where
  receptive := hr
  starts := h.describes.start
  nested := List.cons_ne_nil _ _
  exists_leaf := ⟨_, _, _, "greet", "name", h.askName, fun _ _ => rfl⟩

/-- The paths from the top to the leaves that put the question. -/
def questionPaths : List (List String) :=
  [["language_flow", "java_question"], ["language_flow", "javascript_question"],
    ["quiz", "question"]]

theorem IsNewQuiz.exists_layout (h : IsNewQuiz value id c₀) : ∃ (L : Layout) (w : Wording),
    w.Endures ∧ L.Describes w c₀.opened ∧ c₀.opened.StoresFirst L.askName ∧
    (∀ language, (L.question language).reverse ∈ questionPaths) ∧
    ∃ b root, Conversation.ofBlueprint b root (some .recording) value id = .ok c₀ := by
  cases h with
  | bundled hc =>
    have hparts := isBundled_opened hc
    refine ⟨_, _, endures_wording, hparts.describes, hparts.storesFirst (isReceptive_opened hc),
      fun language => ?_, _, _, hc⟩
    rcases byLanguage_cases language with hj | hj <;> simp [layout, hj, questionPaths]
  | compiled hb hc =>
    have hparts := isCompiled_opened hb hc
    exact ⟨_, _, endures_fileWording, hparts.describes,
      hparts.storesFirst (isReceptive_opened hc), fun language => by
        simp [fileLayout, questionPaths], _, _, hc⟩

/-- Where a conversation waits for a leaf, the active path leads there. -/
theorem activePath_of_waitsAt {a : Address} (h : c.scene.top.WaitsAt a) :
    c.activePath = a.reverse := by
  obtain ⟨l, hl, -⟩ := h.asker
  exact activePath_eq_reverse h.active hl

/-- If it waits after a name, a language and some answers, then it follows the dialogue. -/
theorem IsNewQuiz.exists_follows (h : IsNewQuiz value id c₀)
    (hv : Mapping.ofValue value = .ok initial) (hm : HasMade initial m) (hn : 22 ≤ n)
    {answers : List Value} (hc : c =
      (Entry.start n :: (name :: language :: answers).map (.deliver n)).foldl Conversation.enter c₀)
    (hwaits : c.isAwaiting = true) : ∃ (L : Layout) (w : Wording) (y : View Place), w.Endures ∧
      c₀.Offers (dialogue w) L.leaf 23 ∧ c₀.Follows L.leaf c y ∧ y.standing = .waiting .question ∧
      (∀ language, (L.question language).reverse ∈ questionPaths) ∧
      (∃ shown, w.question y.state = .ok shown) ∧ ∃ k, HasMade y.state k ∧ (k < 3 ↔ m < 3) := by
  obtain ⟨L, w, hw, hdescribes, hstores, hpaths, b, root, hopen⟩ := h.exists_layout
  have hinitial := Conversation.initial_ofBlueprint hv hopen
  have hlimit := Nat.succ_le_succ hn
  have htasks : Conversation.tasksFor c₀.opened.height 1 ≤ n + 1 := by
    rw [hdescribes.height]
    exact le_trans (by decide) hlimit
  -- Were there a key that is no text, then nothing would have been taken.
  have htext : initial.IsTextual := by
    by_contra hother
    rw [hc, Conversation.stuck_of_not_isTextual (Conversation.ofBlueprint_ok hopen).1
      (Conversation.ofBlueprint_ok hopen).2.1 hstores (hinitial ▸ hother) htasks] at hwaits
    cases hwaits
  have hoffers := hdescribes.offers hv htext hopen
  obtain ⟨-, hlast⟩ :=
    hoffers.deliverAll hlimit (hoffers.start hlimit).2 (name :: language :: answers)
  rw [hinitial, ← List.foldl_cons, ← hc] at hlast
  generalize hy : (dialogue w).after _ _ = y at hlast
  have hcounts : CountsFrom w m y := by
    rw [← hy]
    exact (countsFrom_language hw hm name language).after hw answers
  cases hst : y.standing with
  | ended | failed cause =>
    rw [hlast.isAwaiting, hst] at hwaits
    cases hwaits
  | waiting p =>
    obtain ⟨rfl, hput, hk⟩ := hcounts p hst
    exact ⟨L, w, y, hw, hoffers, hlast, hst, hpaths, hput, hk⟩

/-- A call has left the question. Then the conversation is over, unless something in its state
    cannot be written, so that the farewell has failed. -/
def HasLeft (r : Except Fault Unit) (c : Conversation) : Prop :=
  r = .ok () ∧ c.isFinished = true ∨
    r = .error (.misuse .digits) ∧ c.isFinished = false ∧ c.state.isWritable = false

/-- The words that have been said agree with what has become of the conversation: it has left the
    question, or it waits again, at the same leaf. -/
structure Agree (words : String) (r : Except Fault Unit) (c c' : Conversation) : Prop where
  closing : words ∈ closings ↔ HasLeft r c'
  hint : words ∈ hints ↔ c'.isAwaiting = true ∧ c'.activePath = c.activePath

/-- An answer that can be read is taken. The question is left if it is over, and otherwise the quiz
    waits at the same leaf. -/
theorem turn_of_readable (hoffers : c₀.Offers (dialogue w) L.leaf 23) (hw : w.Endures)
    (hn : 22 ≤ n) (hy : c₀.Follows L.leaf c y) (hst : y.standing = .waiting .question)
    (hput : ∃ shown, w.question y.state = .ok shown) (hk : HasMade y.state k)
    (hx : Answer.number v = .ok x) (hc' : (Entry.deliver n v).turn c = (r, c')) :
    (c'.state.isWritable = true → r = .ok ()) ∧
    (∃ rest, c'.scene.events =
      c.scene.events ++ [.input v, .output (.text (verdict (k + 1) x))] ++ rest) ∧
    (HasLeft r c' ↔ isClosed (k + 1) x = true) ∧
    (c'.isAwaiting = true ∧ c'.activePath = c.activePath ↔ isClosed (k + 1) x = false) := by
  obtain ⟨hresult, hfollows⟩ := hoffers.deliver (Nat.succ_le_succ hn) hy v
  have hturn : c.enter (.deliver n v) = c' := congrArg Prod.snd hc'
  rw [hturn] at hfollows
  rw [hc'] at hresult
  simp only [deliver_readable hst hk hx] at hresult hfollows
  have hevents := hfollows.events
  have hawaiting := hfollows.isAwaiting
  have hfinished := hfollows.isFinished
  have hstate := hfollows.state
  rw [← hy.events] at hevents
  -- A question that is closed ends the quiz, and any other is asked again where it was.
  cases hclosed : isClosed (k + 1) x with
  | true =>
    obtain ⟨words, hwords⟩ := hw.farewell
    rw [hclosed, if_pos rfl] at hresult hawaiting hfinished hstate
    have hback : ¬(c'.isAwaiting = true ∧ c'.activePath = c.activePath) := by
      rintro ⟨hwait, -⟩
      rw [hawaiting] at hwait
      cases hs : (y.state.merge (recorded v (.int (k + 1)))).isWritable with
      | true => simp [leaving_of_isWritable hwords hs, Standing.isWaiting] at hwait
      | false => simp [leaving_of_not_isWritable hwords hs, Standing.isWaiting] at hwait
    replace hstate : c'.state = y.state.merge (recorded v (.int (k + 1))) :=
      hstate.trans (Response.state_saying rfl)
    refine ⟨fun hs => ?_, ⟨_, hevents⟩, ⟨fun _ => rfl, fun _ => ?_⟩, by simpa using hback⟩
    · rw [hresult, leaving_of_isWritable hwords (hstate ▸ hs)]
      rfl
    · cases hs : (y.state.merge (recorded v (.int (k + 1)))).isWritable with
      | true =>
        rw [leaving_of_isWritable hwords hs] at hresult hfinished
        exact .inl ⟨hresult, hfinished⟩
      | false =>
        rw [leaving_of_not_isWritable hwords hs] at hresult hfinished
        exact .inr ⟨hresult, hfinished, hstate ▸ hs⟩
  | false =>
    have hopen := mt isClosed_iff.2 (Bool.not_eq_true _ ▸ hclosed)
    rw [not_or] at hopen
    -- The question can be put again, if it has to be.
    have hasks : (w.asking (y.state.merge (recorded v (.int (k + 1))))).standing =
        .waiting .question := by
      obtain ⟨shown, hput⟩ := hput
      obtain ⟨shown', hput'⟩ := hw.stays _ _ _ _ hput hk (by omega) (isWritable_of_number hx)
      unfold Wording.asking Response.saying Wording.shown
      cases isFirstAttempt (y.state.merge (recorded v (.int (k + 1)))) with
      | true => simp only [if_true, hput', Response.after]
      | false => rfl
    rw [hclosed, if_neg Bool.false_ne_true, hasks] at hresult hfollows hawaiting hfinished
    have hpath : c'.activePath = c.activePath := by
      rw [activePath_of_waitsAt (hy.waits _ hst), activePath_of_waitsAt (hfollows.waits _ rfl)]
      simp only [state_asking]
      exact congrArg List.reverse (congrArg L.question language_recorded)
    refine ⟨fun _ => hresult, ⟨_, hevents⟩, ⟨?_, fun h => absurd h Bool.false_ne_true⟩,
      fun _ => rfl, fun _ => ⟨hawaiting, hpath⟩⟩
    rintro (⟨-, hf⟩ | ⟨hr, -⟩)
    · cases hfinished.symm.trans hf
    · cases hresult.symm.trans hr

/-- Let a conversation over one of the flows of the quiz begin in a state in which so many attempts
    have been made, and let it wait for an answer. Then an answer that can be read is taken, unless
    something in the state cannot be written in the end, and words are said about it. They agree
    with what becomes of the conversation if and only if there have been less than three attempts
    at the beginning, or the number is the expected one; otherwise the quiz gives a hint, and leaves
    the question. -/
theorem words_agree_with_way (hv : Mapping.ofValue value = .ok initial) (hm : HasMade initial m)
    (h : IsNewQuiz value id c₀) (hn : 22 ≤ n) {answers : List Value} (hc : c =
      (Entry.start n :: (name :: language :: answers).map (.deliver n)).foldl Conversation.enter c₀)
    (hwaits : c.isAwaiting = true) (hx : Answer.number v = .ok x)
    (hc' : (Entry.deliver n v).turn c = (r, c')) :
    (c'.state.isWritable = true → r = .ok ()) ∧ c.activePath ∈ questionPaths ∧ ∃ words rest,
      c'.scene.events = c.scene.events ++ [.input v, .output (.text words)] ++ rest ∧
      (Agree words r c c' ↔ m < 3 ∨ isExpected x = true) ∧
      (Agree words r c c' ∨ words ∈ hints ∧ HasLeft r c') := by
  obtain ⟨L, w, y, hw, hoffers, hy, hst, hpaths, hput, k, hk, hkm⟩ :=
    h.exists_follows hv hm hn hc hwaits
  obtain ⟨hresult, ⟨rest, hevents⟩, hleaves, hback⟩ :=
    turn_of_readable hoffers hw hn hy hst hput hk hx hc'
  have hagree : Agree (verdict (k + 1) x) r c c' ↔ k < 3 ∨ isExpected x = true := by
    rw [← verdict_agrees_iff, ← hback, ← hleaves]
    exact ⟨fun h => ⟨h.closing, h.hint⟩, fun h => ⟨h.1, h.2⟩⟩
  refine ⟨hresult, ?_, _, rest, hevents, by rw [hagree, hkm], ?_⟩
  · rw [activePath_of_waitsAt (hy.waits _ hst)]
    exact hpaths _
  · by_cases hleft : k < 3 ∨ isExpected x = true
    · exact .inl (hagree.2 hleft)
    · -- More attempts have been counted than there are, and this one is wrong.
      rw [not_or] at hleft
      refine .inr ⟨verdict_mem_hints.2 ?_, hleaves.2 (isClosed_iff.2 (.inr ?_))⟩
      · rw [not_or]
        exact ⟨hleft.2, by omega⟩
      · omega

/-- A conversation over the bundled flow that begins with some attempts follows the dialogue. -/
theorem exists_follows_bundled (m : Int) (vs : List Value) : ∃ c₀,
    Conversation.ofBlueprint blueprint root (some .recording)
      (.record [(.text "attempts", .int m)]) "c" = .ok c₀ ∧
    c₀.Offers (dialogue wording) layout.leaf 23 ∧
    c₀.Follows layout.leaf ((Entry.start 22 :: vs.map (.deliver 22)).foldl Conversation.enter c₀)
      ((dialogue wording).after ((dialogue wording).start [(.text "attempts", .int m)]) vs) := by
  have hv : Mapping.ofValue (.record [(.text "attempts", .int m)]) =
    .ok [(.text "attempts", .int m)] := rfl
  obtain ⟨c₀, hc⟩ := exists_bundled hv "c"
  have hoffers := (isBundled_opened hc).describes.offers hv (by simp [Mapping.IsTextual]) hc
  obtain ⟨-, hfollows⟩ := hoffers.deliverAll le_rfl (hoffers.start le_rfl).2 vs
  rw [Conversation.initial_ofBlueprint hv hc] at hfollows
  exact ⟨c₀, hc, hoffers, hfollows⟩

theorem number_three : Answer.number (.text "3") = .ok (.finite false (3 * Quantity.one)) := by
  decide +kernel

theorem number_five : Answer.number (.text "5") = .ok (.finite false (5 * Quantity.one)) := by
  decide +kernel

/-- If one attempt has been made at the beginning, the words agree after a wrong answer and the
    right one. -/
theorem words_agree_after_retry : ∃ c₀ c c',
    IsNewQuiz (.record [(.text "attempts", .int 1)]) "c" c₀ ∧
    c = [Entry.start 22, .deliver 22 (.text "Ada"), .deliver 22 (.text "Java"),
      .deliver 22 (.text "5")].foldl Conversation.enter c₀ ∧
    (Entry.deliver 22 (.text "3")).turn c = (.ok (), c') ∧ ∃ words rest,
      c'.scene.events = c.scene.events ++ [.input (.text "3"), .output (.text words)] ++ rest ∧
      Agree words (.ok ()) c c' := by
  obtain ⟨c₀, hc, hoffers, hfollows⟩ :=
    exists_follows_bundled 1 [.text "Ada", .text "Java", .text "5"]
  generalize hstarted : (Entry.start 22 :: _).foldl Conversation.enter c₀ = c at hfollows
  generalize hturn : (Entry.deliver 22 (.text "3")).turn c = result
  have hwaits := hfollows.isAwaiting.trans (by decide +kernel : _ = true)
  have hmade : HasMade [(.text "attempts", .int 1)] 1 := rfl
  obtain ⟨hresult, -, words, rest, hevents, hagree, -⟩ := words_agree_with_way rfl hmade
    (.bundled hc) le_rfl hstarted.symm hwaits number_three hturn
  -- All in the state can be written, so the farewell does not fail.
  have hstate := (hoffers.deliver le_rfl hfollows (.text "3")).2.state
  rw [Conversation.enter, hturn] at hstate
  have hok := hresult (hstate ▸ (by decide +kernel : _ = true))
  exact ⟨c₀, c, result.2, .bundled hc, hstarted.symm, hturn.trans (Prod.ext hok rfl), words, rest,
    hevents, hok ▸ hagree.2 (.inl (by decide))⟩

/-- If three attempts have been made at the beginning, a wrong answer gets a hint, and the quiz is
    over. -/
theorem hint_at_the_end : ∃ c₀ c c', IsNewQuiz (.record [(.text "attempts", .int 3)]) "c" c₀ ∧
    c = [Entry.start 22, .deliver 22 (.text "Ada"), .deliver 22 (.text "Java")].foldl
      Conversation.enter c₀ ∧
    c.isAwaiting = true ∧ (Entry.deliver 22 (.text "5")).turn c = (.ok (), c') ∧
    (∃ rest, c'.scene.events =
      c.scene.events ++ [.input (.text "5"), .output (.text "You are higher")] ++ rest) ∧
    c'.isFinished = true ∧ ¬Agree "You are higher" (.ok ()) c c' := by
  obtain ⟨c₀, hc, hoffers, hfollows⟩ := exists_follows_bundled 3 [.text "Ada", .text "Java"]
  generalize hstarted : (Entry.start 22 :: _).foldl Conversation.enter c₀ = c at hfollows
  generalize hturn : (Entry.deliver 22 (.text "5")).turn c = result
  obtain ⟨hresult, hevents, hleaves, hback⟩ := turn_of_readable hoffers endures_wording le_rfl
    hfollows rfl ⟨_, rfl⟩ (k := 3) rfl number_five hturn
  have hwords : verdict (3 + 1) (.finite false (5 * Quantity.one)) = "You are higher" := by
    decide +kernel
  have hclosed : isClosed (3 + 1) (.finite false (5 * Quantity.one)) = true := by decide +kernel
  rw [hwords] at hevents
  rw [hclosed] at hleaves hback
  -- All in the state can be written, so the farewell does not fail.
  have hstate := (hoffers.deliver le_rfl hfollows (.text "5")).2.state
  rw [Conversation.enter, hturn] at hstate
  have hok := hresult (hstate ▸ (by decide +kernel : _ = true))
  have hfinished : result.2.isFinished = true := by
    rcases hleaves.2 rfl with ⟨-, hf⟩ | ⟨hr, -⟩
    · exact hf
    · cases hok.symm.trans hr
  refine ⟨c₀, c, result.2, .bundled hc, hstarted.symm, hfollows.isAwaiting,
    hturn.trans (Prod.ext hok rfl), hevents, hfinished, fun h => ?_⟩
  cases hback.1 (h.hint.1 (by decide))

end Parley.Examples.Quiz

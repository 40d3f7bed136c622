import Parley.Console.Chat
import Parley.Proofs.Conversation.Session

/-!
# Three conditions between calls

After a call that does not fail, a conversation waits for an input or is over,
and not both. After one that fails it does neither, and it stays so: all inputs
are refused from then on. Once a conversation is over it stays as it is, too
(`condition_after_call`).

So who delivers an input whenever the conversation is not over, as a run and a
chat do, delivers none that is refused, as long as no call fails
(`accepts_of_run`, `Console.Chat.isSound_hear`).
-/

namespace Parley

open Element

namespace Conversation

variable {c c' : Conversation} {x : Entry} {limit : Nat} {vs : List Value}

/-- An input that comes out of turn is refused, and nothing changes. -/
theorem deliver_of_refused {v : Value} (h : c.accepts = false) : Turn.deliver limit v c =
    (.error (.protocol (c.refusal (.deliver limit v))), c) := by
  have hg := gate_of_refused (c := c) (x := .deliver limit v) h
  rw [Turn.deliver, bind_apply, show Turn.acceptance v c = _ from hg]

/-- After a failure all inputs are refused. -/
theorem deliver_of_isUnsettled {v : Value} (h : c.IsStarted) (hw : c.scene.top.Wired)
    (hu : c.scene.top.IsUnsettled) :
    Turn.deliver limit v c = (.error (.protocol .inputUnexpected), c) := by
  rw [deliver_of_refused (accepts_of_isUnsettled hw hu), refusal, h.started, isFinished_eq hw, hu.2]
  rfl

/-- After the end all inputs are refused. -/
theorem deliver_of_isOver {v : Value} (h : c.IsStarted) (ho : c.scene.top.IsOver) :
    Turn.deliver limit v c = (.error (.protocol .inputAfterEnd), c) := by
  rw [deliver_of_refused (accepts_of_isOver ho), refusal, h.started, isFinished_eq ho.wired,
    ho.finished]
  rfl

/-- After the end the flow cannot be executed once more. -/
theorem execute_of_isOver (ho : c.scene.top.IsOver) :
    (Task.execute []).run (limit + 1) c.scene =
      (.error (.protocol (.alreadyEnded c.scene.top.name)), c.scene) := by
  obtain ⟨m, keys, hm, -⟩ := ho.wired.outermost
  obtain ⟨cs, hx, -⟩ := at?_manager hm
  have htop : c.scene.top = .manager m cs := Option.some.inj hx
  have hout := isOutermost_session ho.wired
  have hfin := ho.finished
  rw [htop, session] at hout hfin
  have hstep : (Task.execute []).step c.scene =
      (.error (.protocol (.alreadyEnded c.scene.top.name)), c.scene) := by
    rw [Task.step, bind_apply, get_apply]
    simp only [htop, at?_nil, Act.executeManager, hout, hfin]
    rfl
  rw [Task.run_succ, hstep]

/-! ### Runs and chats -/

theorem IsLive.accepts (h : c.IsLive) (hf : c.isFinished = false) : c.accepts = true := by
  obtain ⟨hs, ⟨a, ha⟩ | ho⟩ := h
  · exact accepts_of_waitsAt hs ha
  · rw [isFinished_eq ho.wired, ho.finished] at hf
    cases hf

theorem IsLive.phase (h : c.IsLive) : c.Phase := by
  obtain ⟨hs, ⟨a, ha⟩ | ho⟩ := h
  · exact .waiting hs ha
  · exact .ended hs ho

/-- A conversation that has not failed is live once it has been started. -/
theorem Phase.isLive (h : c.Phase) (hl : c.isFinished ∨ c.isAwaiting) : c.IsLive := by
  rcases hl with hf | hw
  · obtain ⟨hs, ho⟩ := h.isOver hf
    exact ⟨hs, .inr ho⟩
  · obtain ⟨hs, ha⟩ := h.waitsAt hw
    exact ⟨hs, .inl ha⟩

/-- A live conversation waits or is over, and not both. -/
theorem IsLive.isFinished_eq_not (h : c.IsLive) : c.isFinished = !c.isAwaiting := by
  obtain ⟨-, ⟨a, ha⟩ | ho⟩ := h
  · simp [isFinished_eq ha.wired, isAwaiting_eq ha.wired, ha.finished, ha.awaiting]
  · simp [isFinished_eq ho.wired, isAwaiting_eq ho.wired, ho.finished, ho.awaiting]

/-- What follows an entry that is not refused follows it in a live conversation. -/
theorem isLive_of_followed {x' : Entry} {f : Conversation → List Entry} {xs ys : List Entry}
    (h : c.Phase) (ha : c.admits x' = true) (he : (match x'.turn c with
      | (.ok _, c') => f c'
      | _ => []) = xs ++ x :: ys) : (c.enter x').IsLive ∧ f (c.enter x') = xs ++ x :: ys := by
  cases ht : x'.turn c with
  | mk r c' =>
    have hc : c.enter x' = c' := congrArg Prod.snd ht
    rw [ht] at he
    cases r with
    | error cause => simp at he
    | ok =>
      obtain ⟨r, hr⟩ := takes_of_admits h ha
      exact ⟨hr.isLive (congrArg Prod.fst ht), hc ▸ he⟩

/-- Inputs that are delivered until the conversation is over are taken. -/
theorem accepts_of_deliveries (h : c.IsLive) {xs ys : List Entry}
    (he : c.deliveries limit vs = xs ++ x :: ys) : (xs.foldl enter c).accepts = true := by
  induction vs generalizing c xs with
  | nil => simp [deliveries] at he
  | cons v vs ih =>
    rw [deliveries] at he
    cases hf : c.isFinished with
    | true => simp [hf] at he
    | false =>
      rw [hf, if_neg Bool.false_ne_true] at he
      have ha : c.admits (.deliver limit v) = true := h.accepts hf
      cases xs with
      | nil => exact ha
      | cons x' xs =>
        obtain ⟨rfl, hrest⟩ := List.cons.inj he
        obtain ⟨hlive, hrest⟩ := isLive_of_followed h.phase ha hrest
        exact ih hlive hrest

/-- The inputs that a run delivers are taken, if the conversation has not failed
    before. -/
theorem accepts_of_run {inputs : List Value} {limit' : Nat} {v : Value} (h : c.Phase)
    (hl : c.started = true → c.isFinished ∨ c.isAwaiting)
    (hx : c.Calls [.run limit inputs] c' (.deliver limit' v)) : c'.accepts = true := by
  obtain ⟨xs, ys, he, rfl⟩ := hx
  rw [entries, entries, List.append_nil, entriesOf] at he
  cases hs : c.started with
  | true =>
    rw [hs, if_pos rfl] at he
    exact accepts_of_deliveries (h.isLive (hl hs)) he
  | false =>
    rw [hs, if_neg Bool.false_ne_true] at he
    cases xs with
    | nil => cases he
    | cons x' xs =>
      obtain ⟨rfl, hrest⟩ := List.cons.inj he
      have ha : c.admits (.start limit) = true := by simp [admits, hs]
      obtain ⟨hlive, hrest⟩ := isLive_of_followed h ha hrest
      exact accepts_of_deliveries hlive hrest

end Conversation

/-- The limit of an entry that a chat makes, which allows one task more. -/
def Console.chatLimit : Nat := Console.Chat.patience - 1

namespace Console.Chat

open Conversation

variable {chat : Chat} {x : Entry}

/-- Whenever the chat asks something, its conversation is live and not over. -/
def IsSound (chat : Chat) : Prop :=
  ∀ q, chat.status = .asking q → chat.conversation.IsLive ∧ chat.conversation.isFinished = false

theorem conversation_ask (question : Option Payload) :
    (chat.ask question).conversation = chat.conversation := by
  unfold ask
  split <;> rfl

/-- Going on after a call that has not failed, the chat asks something only if the
    conversation is not over. -/
theorem isSound_goOn (h : chat.conversation.IsLive) : chat.goOn.IsSound := by
  intro q hq
  unfold goOn at hq ⊢
  cases hf : chat.conversation.isFinished with
  | true => simp [hf] at hq
  | false =>
    simp only [Bool.false_eq_true, if_false, conversation_ask]
    exact ⟨h, hf⟩

/-- The conversation of a chat that has taken a turn and not failed is live. -/
theorem isLive_take (h : chat.conversation.Phase) (ha : chat.conversation.admits x)
    (hf : (chat.take x.turn).hasFailed = false) : (chat.take x.turn).conversation.IsLive := by
  obtain ⟨r, hr⟩ := takes_of_admits h ha
  cases ht : x.turn chat.conversation with
  | mk r c' =>
    have hc : chat.conversation.enter x = c' := congrArg Prod.snd ht
    cases r with
    | error cause => simp [take, ht, hasFailed] at hf
    | ok =>
      have hlive := hr.isLive (congrArg Prod.fst ht)
      simp only [take, ht]
      exact hc ▸ hlive

theorem conversation_reportState : chat.reportState.conversation = chat.conversation := by
  unfold reportState
  split <;> rfl

theorem isSound_of_hasFailed (h : chat.hasFailed = true) : chat.IsSound := by
  intro q hq
  rw [hasFailed, hq] at h
  cases h

theorem isSound_start {screen : Terminal.Screen} {c : Conversation} {showsState : Bool}
    (h : c.IsFresh) : (Chat.start screen c showsState).IsSound := by
  have ha : c.admits (.start chatLimit) = true := by
    simp [Conversation.admits, h.started]
  unfold Chat.start
  dsimp only
  split
  · exact isSound_of_hasFailed ‹_›
  · rename_i hn
    exact isSound_goOn (isLive_take (x := .start chatLimit) (.fresh h) ha (Bool.eq_false_iff.2 hn))

/-- A chat that is heard to the end asks of a conversation that takes the answer. -/
theorem isSound_hear {line : Option String} (h : chat.IsSound) : (chat.hear line).IsSound := by
  unfold hear
  split
  · exact h
  · exact h
  · rename_i q hq
    obtain ⟨hlive, hfin⟩ := h _ hq
    split
    · intro q hq
      cases hq
    · rename_i typed
      simp only
      split
      · -- A line that is no option leaves the conversation as it is.
        intro q' _
        rw [conversation_ask]
        exact ⟨hlive, hfin⟩
      · split
        · intro q hq
          cases hq
        · -- An answer goes to a conversation that takes it.
          unfold answer
          simp only
          split
          · exact isSound_of_hasFailed ‹_›
          · rename_i hn
            refine isSound_goOn ?_
            rw [conversation_reportState]
            exact isLive_take (x := .deliver chatLimit _) hlive.phase (hlive.accepts hfin)
              (Bool.eq_false_iff.2 hn)

theorem isSound_foldl (h : chat.IsSound) (lines : List String) :
    (lines.foldl (fun chat line => chat.hear (some line)) chat).IsSound := by
  induction lines generalizing chat with
  | nil => exact h
  | cons line lines ih => exact ih (isSound_hear h)

end Console.Chat

namespace Conversation

variable {c₀ c : Conversation} {x : Entry}

/-- A call that fails is followed by refusals only. -/
theorem Takes.refused_of_error {r : Course} (h : c.Takes x r) (hr : c.IsReceptive) {cause : Fault}
    (he : (x.turn c).1 = .error cause) :
    (c.enter x).isFinished = false ∧ (c.enter x).isAwaiting = false ∧
      (∀ rs, (c.enter x).afterAll rs = c.enter x) ∧
      ∀ limit v, Turn.deliver limit v (c.enter x) =
        (.error (.protocol .inputUnexpected), c.enter x) := by
  obtain ⟨hw, hu⟩ := h.of_error hr he
  have hs := h.isStarted
  refine ⟨(isFinished_eq hw).trans hu.2, (isAwaiting_eq hw).trans hu.1, ?_, ?_⟩
  · exact afterAll_of_refused (admits_eq_false hs (accepts_of_isUnsettled hw hu))
  · exact fun limit v => deliver_of_isUnsettled hs hw hu

/-- In a conversation over a built flow with a front end that takes all it is
    told, after any requests:

    * a call that is not refused out of hand leaves the conversation over or
      waiting, not both, if it does not fail; if it fails then neither, and from
      then on nothing changes and every input is refused;
    * once the conversation is over, nothing changes and every input is refused,
      and so is a further execution of the flow;
    * unless a call has failed before, a run delivers no input that is refused;
    * nor does a chat. -/
theorem condition_after_call {b : Blueprint} {root id : String} {frontEnd : FrontEnd}
    {state : Value} (hf : ∀ e, frontEnd.refusal e = none)
    (h : ofBlueprint b root (some frontEnd) state id = .ok c₀) (rs : List Request) :
    (∀ c x, c₀.Calls rs c x → c.admits x = true →
      ((x.turn c).1 = .ok () → (c.enter x).isFinished = !(c.enter x).isAwaiting) ∧
      ∀ cause, (x.turn c).1 = .error cause →
        (c.enter x).isFinished = false ∧ (c.enter x).isAwaiting = false ∧
        (∀ rs', (c.enter x).afterAll rs' = c.enter x) ∧
        ∀ limit v, Turn.deliver limit v (c.enter x) =
          (.error (.protocol .inputUnexpected), c.enter x)) ∧
    (∀ c, c = c₀.afterAll rs → c.isFinished = true →
      (∀ rs', c.afterAll rs' = c) ∧
      (∀ limit v, Turn.deliver limit v c = (.error (.protocol .inputAfterEnd), c)) ∧
      ∀ limit, (Task.execute []).run (limit + 1) c.scene =
        (.error (.protocol (.alreadyEnded c.scene.top.name)), c.scene)) ∧
    (∀ c, c = c₀.afterAll rs → (c.started = true → c.isFinished ∨ c.isAwaiting) →
      ∀ limit inputs c' limit' v, c.Calls [.run limit inputs] c' (.deliver limit' v) →
        c'.accepts = true) ∧
    ∀ screen showsState (lines : List String) (chat : Console.Chat) q,
      chat = lines.foldl (fun chat line => chat.hear (some line))
        (Console.Chat.start screen c₀ showsState) →
      chat.status = .asking q → chat.conversation.accepts = true := by
  obtain ⟨hfresh, hfe, -⟩ := ofBlueprint_ok h
  have hr : c₀.IsReceptive := ⟨frontEnd, hfe, hf⟩
  have hphase : c₀.Phase := .fresh hfresh
  refine ⟨fun c x hc ha => ?_, ?_, ?_, ?_⟩
  · -- A single call.
    obtain ⟨hp, hr⟩ := hc.phase hphase hr
    obtain ⟨r, ht⟩ := takes_of_admits hp ha
    exact ⟨fun hok => (ht.isLive hok).isFinished_eq_not, fun cause he => ht.refused_of_error hr he⟩
  · -- After the end.
    rintro c rfl hfin
    obtain ⟨hs, ho⟩ := (hphase.afterAll hr rs).isOver hfin
    refine ⟨?_, fun limit v => deliver_of_isOver hs ho, fun limit => execute_of_isOver ho⟩
    exact afterAll_of_refused (admits_eq_false hs (accepts_of_isOver ho))
  · -- A run.
    rintro c rfl hl limit inputs c' limit' v hc
    exact accepts_of_run (hphase.afterAll hr rs) hl hc
  · -- A chat.
    rintro screen showsState lines chat q rfl hq
    have hstart : (Console.Chat.start screen c₀ showsState).IsSound :=
      Console.Chat.isSound_start hfresh
    obtain ⟨hlive, hfin⟩ := Console.Chat.isSound_foldl hstart lines q hq
    exact hlive.accepts hfin

theorem condition_after_call_single : ∃ c₀,
    ofBlueprint .single "main" (some .recording) (.record []) "c" = .ok c₀ ∧
      (c₀.enter (.start 5)).isFinished = !(c₀.enter (.start 5)).isAwaiting := by
  have h : ofBlueprint .single "main" (some .recording) (.record []) "c" = .ok _ := rfl
  obtain ⟨hcalls, -⟩ := condition_after_call (fun _ => rfl) h [.start 5]
  exact ⟨_, h, (hcalls _ (.start 5) ⟨[], [], rfl, rfl⟩ rfl).1 rfl⟩

end Conversation

end Parley

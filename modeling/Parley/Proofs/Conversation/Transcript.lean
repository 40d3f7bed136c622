import Parley.Proofs.Conversation.Session
import Parley.Proofs.Flow.Grammar

/-!
# The transcript of a conversation

A front end that keeps everything has a block of events from the start of the
conversation, and then, for each input taken, the input and a block
(`IsTranscript`). The end of the session is the last event if the conversation is
over, and is nowhere else (`transcript_of_history`).
-/

namespace Parley

/-- A block, and then inputs with a block after each. -/
inductive IsTranscript : List Event → List Value → Prop
  | start {b : List Event} : IsBlock b → IsTranscript b []
  | turn {es b : List Event} {vs : List Value} (v : Value) : IsTranscript es vs → IsBlock b →
      IsTranscript (es ++ .input v :: b) (vs ++ [v])

/-- The input that an event notes. -/
def Event.input? : Event → Option Value
  | .input v => some v
  | _ => none

variable {es b : List Event} {vs : List Value}

theorem IsBlock.filterMap_input? (h : IsBlock b) : b.filterMap Event.input? = [] := by
  induction h with
  | output p _ ih => exact ih
  | _ => rfl

/-- The inputs of a transcript can be read from its events. -/
theorem IsTranscript.filterMap_input? (h : IsTranscript es vs) :
    es.filterMap Event.input? = vs := by
  induction h with
  | start hb => exact hb.filterMap_input?
  | turn v _ hb ih => simp [Event.input?, ih, hb.filterMap_input?]

namespace Conversation

variable {c : Conversation} {x : Entry} {r : Course}

/-- The inputs that are taken in the course of some calls. -/
def taken (c : Conversation) : List Entry → List Value
  | [] => []
  | x :: xs => (if c.admits x then x.inputs else []) ++ (c.enter x).taken xs

/-- What a conversation with a front end that keeps everything has told, when the
    inputs `vs` have been taken. -/
structure HasTold (c : Conversation) (vs : List Value) : Prop where
  transcript : IsTranscript c.scene.events vs
  turns : vs.length = c.turns
  ended : .ended ∈ c.scene.events ↔ c.isFinished = true
  last : .ended ∉ c.scene.events.dropLast
  fresh : c.started = false → c.scene.events = [] ∧ vs = []

/-- What is taken is taken before the end. -/
theorem isFinished_of_admits (hp : c.Phase) (ha : c.admits x = true) : c.isFinished = false := by
  cases x with
  | start limit =>
    have hs : c.started = false := by simpa [admits] using ha
    cases hp with
    | fresh h => exact h.isFinished
    | waiting h | ended h | failed h =>
      rw [h.started] at hs
      cases hs
  | deliver limit v =>
    rw [admits, accepts, Bool.and_eq_true, Bool.and_eq_true, Bool.not_eq_true'] at ha
    exact ha.1.2

/-- The end is told by the call with which the conversation is over. -/
theorem Takes.ended_mem_iff (ht : c.Takes x r) (hr : c.IsReceptive) :
    .ended ∈ r.events ↔ (c.enter x).isFinished = true := by
  obtain ⟨n, hn⟩ := x.exists_limit
  rw [isFinished_eq ht.wired, ht.top]
  exact (hn ▸ ht.runs).ended_mem_iff ht.begins (ht.isReceptive_flowFor hr)

theorem Takes.events_eq (ht : c.Takes x r) (hfe : c.frontEnd = some .recording) :
    (c.enter x).scene.events = c.scene.events ++ (x.inputs.map .input ++ r.events) := by
  obtain ⟨log, he⟩ := ht.enter
  have hk : FrontEnd.recording.keepsInputs = true := rfl
  rw [he]
  simp [heard, hfe, hk]

/-- A call that is taken adds its input, if it has one, and a block. -/
theorem HasTold.enter (h : c.HasTold vs) (hfe : c.frontEnd = some .recording) (hp : c.Phase)
    (ha : c.admits x = true) (ht : c.Takes x r) : (c.enter x).HasTold (vs ++ x.inputs) := by
  have hr : c.IsReceptive := ⟨_, hfe, fun _ => rfl⟩
  have hblock := ht.runs.isBlock
  have hold : .ended ∉ c.scene.events := by
    rw [h.ended, isFinished_of_admits hp ha]
    exact Bool.false_ne_true
  have hinputs : .ended ∉ x.inputs.map Event.input := by simp
  have hev := ht.events_eq hfe
  refine ⟨?_, ?_, ?_, ?_, fun hs => ?_⟩
  · -- The first call begins the transcript, and a later one adds an input and its block.
    rw [hev]
    cases x with
    | start limit =>
      obtain ⟨hnil, rfl⟩ := h.fresh (by simpa [admits] using ha)
      rw [hnil]
      exact .start hblock
    | deliver limit v => exact .turn v h.transcript hblock
  · obtain ⟨log, he⟩ := ht.enter
    rw [he, List.length_append, h.turns]
  · rw [hev, ← ht.ended_mem_iff hr]
    simp [hold, hinputs]
  · -- The end can only be the last event of the block that has been added.
    rw [hev, ← List.append_assoc]
    cases hb : r.events with
    | nil =>
      rw [List.append_nil]
      intro hm
      have hm := List.dropLast_subset _ hm
      simp [hold, hinputs] at hm
    | cons e es =>
      rw [List.dropLast_append_of_ne_nil (List.cons_ne_nil e es), ← hb]
      simp [hold, hinputs, hblock.ended_not_mem_dropLast]
  · rw [ht.isStarted.started] at hs
    cases hs

theorem HasTold.foldl (h : c.HasTold vs) (hfe : c.frontEnd = some .recording) (hp : c.Phase)
    (xs : List Entry) : (xs.foldl Conversation.enter c).HasTold (vs ++ c.taken xs) := by
  have hr : c.IsReceptive := ⟨_, hfe, fun _ => rfl⟩
  induction xs generalizing c vs with
  | nil => rw [taken, List.append_nil]; exact h
  | cons x xs ih =>
    rw [List.foldl_cons, taken]
    cases ha : c.admits x with
    | false =>
      rw [x.enter_of_refused ha]
      exact ih h hfe hp hr
    | true =>
      obtain ⟨r, ht⟩ := takes_of_admits hp ha
      rw [if_pos rfl, ← List.append_assoc]
      exact ih (h.enter hfe hp ha ht) (ht.frontEnd_enter.trans hfe) (ht.phase) (hr.enter hp x)

/-- With a front end that keeps everything, after any requests: the events are a
    block and then, for each input taken, the input and a block; the inputs taken
    are counted; and the end of the session is the last event if the conversation
    is over, and is nowhere else. -/
theorem transcript_of_history {b : Blueprint} {root id : String} {state : Value}
    {c₀ c : Conversation} (h : ofBlueprint b root (some .recording) state id = .ok c₀)
    (rs : List Request) (hc : c = c₀.afterAll rs) :
    IsTranscript c.scene.events (c₀.taken (c₀.entries rs)) ∧
      c.scene.events.filterMap Event.input? = c₀.taken (c₀.entries rs) ∧
      (c₀.taken (c₀.entries rs)).length = c.turns ∧
      .ended ∉ c.scene.events.dropLast ∧
      (.ended ∈ c.scene.events ↔ c.isFinished = true) := by
  obtain ⟨hfresh, hfe, hev, hturns, -⟩ := ofBlueprint_ok h
  have htold : c₀.HasTold [] := by
    refine ⟨?_, hturns.symm, ?_, ?_, fun _ => ⟨hev, rfl⟩⟩
    · rw [hev]
      exact .start .nil
    · simp [hev, hfresh.isFinished]
    · simp [hev]
  have hafter := htold.foldl hfe (.fresh hfresh) (c₀.entries rs)
  rw [List.nil_append, ← afterAll_eq_foldl, ← hc] at hafter
  exact ⟨hafter.transcript, hafter.transcript.filterMap_input?, hafter.turns, hafter.last,
    hafter.ended⟩

theorem transcript_of_single : ∃ c₀ c,
    ofBlueprint .single "main" (some .recording) (.record []) "c" = .ok c₀ ∧
      c = c₀.afterAll [.start 5, .deliver 5 (.text "Fine.")] ∧
      IsTranscript c.scene.events [.text "Fine."] ∧ c.isFinished = true := by
  have h : ofBlueprint .single "main" (some .recording) (.record []) "c" = .ok _ := rfl
  have ht := transcript_of_history h [.start 5, .deliver 5 (.text "Fine.")] rfl
  exact ⟨_, _, h, rfl, ht.1, rfl⟩

end Conversation

end Parley

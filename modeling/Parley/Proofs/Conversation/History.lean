import Parley.Conversation
import Parley.Proofs.Flow.Run

/-!
# Histories of conversations

What is called of a conversation is to start it, to hand over an input
(`Entry`), or to run it, which starts it and hands over inputs (`Request`). A
history of requests is one of entries, for which see `Conversation.entries`: what
is there after the requests is what is there after their entries
(`afterAll_eq_foldl`).

An entry that a conversation refuses changes nothing (`Entry.turn_of_refused`).
One that it takes makes it perform a task, and those that follow from it
(`Entry.turn_of_gate_ok`).
-/

namespace Parley

/-- A call that starts a conversation, or hands over an input. The flow may
    perform `limit` tasks after the first. -/
inductive Entry where
  | start (limit : Nat)
  | deliver (limit : Nat) (value : Value)

/-- What is asked of a conversation from outside. -/
inductive Request where
  | start (limit : Nat)
  | deliver (limit : Nat) (value : Value)
  | run (limit : Nat) (inputs : List Value)

namespace Entry

/-- The number of tasks that an entry allows. -/
def limit : Entry → Nat
  | .start limit | .deliver limit _ => limit + 1

/-- What an entry does before the first task. -/
def gate : Entry → Turn Task
  | .start _ => Turn.opening
  | .deliver _ v => Turn.acceptance v

def turn : Entry → Turn Unit
  | .start limit => Turn.start (limit + 1)
  | .deliver limit v => Turn.deliver (limit + 1) v

/-- The tasks that an entry makes the flow perform, each in its scene. -/
def tasks (x : Entry) (c : Conversation) : List (Scene × Task) :=
  match x.gate c with
  | (.ok t, c') => t.trace x.limit c'.scene
  | _ => []

end Entry

def Request.turn : Request → Turn Unit
  | .start limit => Turn.start (limit + 1)
  | .deliver limit v => Turn.deliver (limit + 1) v
  | .run limit inputs => Turn.run (limit + 1) inputs

namespace Conversation

/-- The conversation takes an input. -/
def accepts (c : Conversation) : Bool :=
  c.started && !c.isFinished && c.isAwaiting

/-- The conversation does not refuse the entry out of hand. -/
def admits (c : Conversation) : Entry → Bool
  | .start _ => !c.started
  | .deliver .. => c.accepts

/-- The conversation after an entry, whether that has failed or not. -/
def enter (c : Conversation) (x : Entry) : Conversation :=
  (x.turn c).2

/-- The results of calls, one after the other. -/
def results (c : Conversation) : List Entry → List (Except Fault Unit)
  | [] => []
  | x :: xs => (x.turn c).1 :: (c.enter x).results xs

/-- The conversation after a request. -/
def after (c : Conversation) (r : Request) : Conversation :=
  (r.turn c).2

/-- The conversation after some requests. -/
def afterAll (c : Conversation) (rs : List Request) : Conversation :=
  rs.foldl after c

/-- The inputs that are handed over by a run, up to the end of the flow or the
    first failure. -/
def deliveries (c : Conversation) (limit : Nat) : List Value → List Entry
  | [] => []
  | v :: vs =>
    if c.isFinished then []
    else .deliver limit v :: match (Entry.deliver limit v).turn c with
      | (.ok _, c') => c'.deliveries limit vs
      | _ => []

/-- The entries that a request makes. -/
def entriesOf (c : Conversation) : Request → List Entry
  | .start limit => [.start limit]
  | .deliver limit v => [.deliver limit v]
  | .run limit inputs =>
    if c.started then c.deliveries limit inputs
    else .start limit :: match (Entry.start limit).turn c with
      | (.ok _, c') => c'.deliveries limit inputs
      | _ => []

/-- The entries that requests make, one after the other. -/
def entries (c : Conversation) : List Request → List Entry
  | [] => []
  | r :: rs => c.entriesOf r ++ (c.after r).entries rs

/-- The tasks that entries make the flow perform, each in its scene. -/
def performed (c : Conversation) : List Entry → List (Scene × Task)
  | [] => []
  | x :: xs => x.tasks c ++ (c.enter x).performed xs

/-- The requests call the entry of the conversation `c`, after other entries
    perhaps. -/
def Calls (c₀ : Conversation) (rs : List Request) (c : Conversation) (x : Entry) : Prop :=
  ∃ xs ys, c₀.entries rs = xs ++ x :: ys ∧ c = xs.foldl enter c₀

variable {c : Conversation} {limit : Nat} {vs : List Value}

/-! ### Requests as entries -/

/-- An entry and what follows it unless it fails. -/
theorem bind_eq_foldl {x : Entry} {rest : Turn Unit} {f : Conversation → List Entry}
    (hrest : ∀ c, (rest c).2 = (f c).foldl enter c) : ((x.turn >>= fun _ => rest) c).2 =
      (x :: match x.turn c with
        | (.ok _, c') => f c'
        | _ => []).foldl enter c := by
  rw [bind_apply, List.foldl_cons]
  cases h : x.turn c with
  | mk r c' =>
    have hc : c.enter x = c' := congrArg Prod.snd h
    rw [hc]
    cases r with
    | error cause => rfl
    | ok => exact hrest c'

theorem deliverAll_eq_foldl :
    (Turn.deliverAll (limit + 1) vs c).2 = (c.deliveries limit vs).foldl enter c := by
  induction vs generalizing c with
  | nil => rfl
  | cons v vs ih =>
    rw [Turn.deliverAll, bind_apply, get_apply, deliveries]
    by_cases hf : c.isFinished
    · simp only [hf, if_true]
      rfl
    · simp only [hf]
      exact bind_eq_foldl (x := .deliver limit v) fun _ => ih

theorem after_eq_foldl (c : Conversation) (r : Request) :
    c.after r = (c.entriesOf r).foldl enter c := by
  cases r with
  | start limit => rfl
  | deliver limit v => rfl
  | run limit inputs =>
    rw [after, Request.turn, Turn.run, bind_apply, get_apply, entriesOf]
    by_cases hs : c.started
    · simp only [hs, if_true]
      exact deliverAll_eq_foldl
    · simp only [hs]
      exact bind_eq_foldl (x := .start limit) fun _ => deliverAll_eq_foldl

/-- What is there after requests is what is there after their entries. -/
theorem afterAll_eq_foldl (c : Conversation) (rs : List Request) :
    c.afterAll rs = (c.entries rs).foldl enter c := by
  induction rs generalizing c with
  | nil => rfl
  | cons r rs ih =>
    rw [entries, List.foldl_append, ← after_eq_foldl]
    exact ih (c.after r)

/-! ### Entries that are refused -/

/-- Why a conversation refuses an entry. -/
def refusal (c : Conversation) : Entry → ProtocolFault
  | .start _ => .alreadyStarted c.id
  | .deliver .. =>
    if !c.started then .inputBeforeStart
    else if c.isFinished then .inputAfterEnd
    else .inputUnexpected

theorem gate_of_refused {x : Entry} (h : c.admits x = false) :
    x.gate c = (.error (.protocol (c.refusal x)), c) := by
  cases x with
  | start limit =>
    have hs : c.started = true := by simpa [admits] using h
    simp only [Entry.gate, Turn.opening, bind_apply, get_apply, hs]
    rfl
  | deliver limit v =>
    simp only [Entry.gate, Turn.acceptance, bind_apply, get_apply, refusal]
    cases hs : c.started with
    | false => rfl
    | true =>
      cases hf : c.isFinished with
      | true => rfl
      | false =>
        have ha : c.isAwaiting = false := by simpa [admits, accepts, hs, hf] using h
        rw [ha]
        rfl

end Conversation

namespace Entry

variable {c c' : Conversation} {x : Entry} {t : Task}

/-- An entry that does not get past the gate does nothing more. -/
theorem turn_of_gate_error {cause : Fault} (h : x.gate c = (.error cause, c')) :
    x.turn c = (.error cause, c') := by
  cases x with
  | start limit =>
    rw [turn, Turn.start, bind_apply, show Turn.opening c = _ from h]
  | deliver limit v =>
    rw [turn, Turn.deliver, bind_apply, show Turn.acceptance v c = _ from h]

/-- A refused entry changes nothing. -/
theorem turn_of_refused (h : c.admits x = false) :
    x.turn c = (.error (.protocol (c.refusal x)), c) :=
  turn_of_gate_error (Conversation.gate_of_refused h)

theorem enter_of_refused (h : c.admits x = false) : c.enter x = c :=
  congrArg Prod.snd (turn_of_refused h)

theorem tasks_of_refused (h : c.admits x = false) : x.tasks c = [] := by
  rw [tasks, Conversation.gate_of_refused h]

theorem admits_of_mem_tasks {q : Scene × Task} (hq : q ∈ x.tasks c) : c.admits x = true := by
  by_contra hn
  rw [x.tasks_of_refused (Bool.eq_false_iff.2 hn)] at hq
  cases hq

/-! ### Entries that are taken -/

/-- Past the gate, an entry runs the flow. -/
theorem turn_of_gate_ok (h : x.gate c = (.ok t, c')) : ∃ log, x.turn c =
    ((t.run x.limit c'.scene).1,
      { c' with scene := { (t.run x.limit c'.scene).2 with log := log } }) := by
  cases x with
  | start limit =>
    rw [turn, Turn.start, bind_apply, show Turn.opening c = _ from h]
    exact ⟨_, rfl⟩
  | deliver limit v =>
    rw [turn, Turn.deliver, bind_apply, show Turn.acceptance v c = _ from h]
    rcases hr : t.run (limit + 1) c'.scene with ⟨r, s'⟩
    have hw : Turn.within (t.run (limit + 1)) c' = (r, { c' with scene := s' }) := by
      rw [Turn.within, hr]
    simp only [bind_apply, get_apply, hw, Entry.limit, hr]
    cases r with
    | error cause => exact ⟨s'.log, rfl⟩
    | ok =>
      -- What is left to do is to log the end, if that is reached.
      simp only
      split
      · exact ⟨_, rfl⟩
      · exact ⟨s'.log, rfl⟩

end Entry

end Parley

import Parley.Proofs.Conversation.SharedState
import Parley.Proofs.Conversation.Walk
import Parley.Proofs.Flow.Response

/-!
# Dialogues

What a flow does can be told without its tree: by the places at which it waits, and by what an
input comes to at each of them (`Dialogue`). A flow serves a dialogue if the walk from each of
its questions comes to what the dialogue says (`Element.Serves`). Conversations over such a flow
then follow the dialogue, call by call (`Conversation.Follows`), and all that the outside can see
of them is in its view (`View`):

* `Conversation.Offers.deliver`: each input has the result that it has in the dialogue, and
  leads to the view that it leads to there;
* `Conversation.Offers.history`: so does every history of inputs after the start;
* `Conversation.Offers.run`: a run, which ends with the first call that fails, does so too.
-/

namespace Parley

open Element

/-- What is told at the beginning, and what comes of an input at each of the places. -/
structure Dialogue (Place : Type) where
  opening : Mapping → Response Place
  answer : Place → Value → Mapping → Response Place

/-- What can be seen of a conversation from outside. -/
structure View (Place : Type) where
  state : Mapping
  turns : Nat
  events : List Event
  standing : Standing Place

namespace Standing

variable {P : Type}

def isWaiting : Standing P → Bool
  | .waiting _ => true
  | _ => false

def isOver : Standing P → Bool
  | .ended => true
  | _ => false

theorem isWaiting_or_isOver (s : Standing P) : (s.isWaiting || s.isOver) = s.outcome.isOk := by
  cases s <;> rfl

end Standing

namespace Dialogue

variable {P : Type}

/-- The view once the conversation has been started. -/
def start (d : Dialogue P) (state : Mapping) : View P :=
  let r := d.opening state
  ⟨r.state, 0, r.events, r.standing⟩

/-- What an input comes to, and the view after it. -/
def deliver (d : Dialogue P) (x : View P) (v : Value) : Except Fault Unit × View P :=
  match x.standing with
  | .waiting p =>
    let r := d.answer p v x.state
    (r.standing.outcome, ⟨r.state, x.turns + 1, x.events ++ .input v :: r.events, r.standing⟩)
  | .ended => (.error (.protocol .inputAfterEnd), x)
  | .failed _ => (.error (.protocol .inputUnexpected), x)

/-- The results of inputs, one after the other. -/
def results (d : Dialogue P) (x : View P) : List Value → List (Except Fault Unit)
  | [] => []
  | v :: vs => (d.deliver x v).1 :: d.results (d.deliver x v).2 vs

/-- The view after inputs. -/
def after (d : Dialogue P) (x : View P) (vs : List Value) : View P :=
  vs.foldl (fun x v => (d.deliver x v).2) x

@[simp] theorem results_nil (d : Dialogue P) (x : View P) : d.results x [] = [] := rfl

@[simp] theorem results_cons (d : Dialogue P) (x : View P) (v : Value) (vs : List Value) :
    d.results x (v :: vs) = (d.deliver x v).1 :: d.results (d.deliver x v).2 vs := rfl

@[simp] theorem after_nil (d : Dialogue P) (x : View P) : d.after x [] = x := rfl

@[simp] theorem after_cons (d : Dialogue P) (x : View P) (v : Value) (vs : List Value) :
    d.after x (v :: vs) = d.after (d.deliver x v).2 vs := rfl

/-- What comes of inputs that are handed over until the dialogue is over or one fails, and the
    view then. -/
def run (d : Dialogue P) (x : View P) : List Value → Except Fault Unit × View P
  | [] => (.ok (), x)
  | v :: vs =>
    if x.standing.isOver then (.ok (), x)
    else
      match (d.deliver x v).1 with
      | .error cause => (.error cause, (d.deliver x v).2)
      | .ok _ => d.run (d.deliver x v).2 vs

/-- The same, once the dialogue has been opened in a state. -/
def perform (d : Dialogue P) (state : Mapping) (vs : List Value) : Except Fault Unit × View P :=
  match (d.opening state).standing.outcome with
  | .error cause => (.error cause, d.start state)
  | .ok _ => d.run (d.start state) vs

/-- Nothing is handed over once the dialogue is over. -/
theorem run_of_ended {d : Dialogue P} {x : View P} (h : x.standing = .ended) (vs : List Value) :
    d.run x vs = (.ok (), x) := by
  cases vs with
  | nil => rfl
  | cons v vs =>
    rw [run, h]
    rfl

/-- While the dialogue waits, the first input is handed over. -/
theorem run_of_waiting {d : Dialogue P} {x : View P} {p : P} (h : x.standing = .waiting p)
    (v : Value) (vs : List Value) : d.run x (v :: vs) =
      match (d.deliver x v).1 with
      | .error cause => (.error cause, (d.deliver x v).2)
      | .ok _ => d.run (d.deliver x v).2 vs := by
  rw [run, h]
  rfl

/-- If that succeeds, the others are handed over to the view that it leads to. -/
theorem run_of_ok {d : Dialogue P} {x : View P} {p : P} (h : x.standing = .waiting p) {v : Value}
    (hv : (d.deliver x v).1 = .ok ()) (vs : List Value) :
    d.run x (v :: vs) = d.run (d.deliver x v).2 vs := by
  rw [run_of_waiting h, hv]

/-- If the dialogue waits after an input, it has waited for it. -/
theorem exists_of_deliver {d : Dialogue P} {x : View P} {v : Value} {p : P}
    (h : (d.deliver x v).2.standing = .waiting p) : ∃ q, x.standing = .waiting q ∧
      (d.answer q v x.state).standing = .waiting p ∧
      (d.deliver x v).2.state = (d.answer q v x.state).state := by
  cases hst : x.standing with
  | waiting q =>
    simp only [deliver, hst] at h ⊢
    exact ⟨q, rfl, h, rfl⟩
  | ended | failed cause =>
    simp only [deliver, hst] at h
    cases h

theorem outcome_deliver {d : Dialogue P} {x : View P} {p : P} (h : x.standing = .waiting p)
    (v : Value) : (d.deliver x v).1 = (d.deliver x v).2.standing.outcome := by
  simp only [deliver, h]

/-- The result of a run tells where it has left the dialogue. -/
theorem outcome_run {d : Dialogue P} {x : View P} (h : x.standing.outcome = .ok ())
    (vs : List Value) : (d.run x vs).1 = (d.run x vs).2.standing.outcome := by
  induction vs generalizing x with
  | nil => exact h.symm
  | cons v vs ih =>
    cases hst : x.standing with
    | ended => rw [run_of_ended hst, h]
    | failed cause =>
      rw [hst] at h
      cases h
    | waiting p =>
      have hresult : (d.deliver x v).1 = _ := outcome_deliver hst v
      rw [run_of_waiting hst]
      cases hd : (d.deliver x v).1 with
      | error cause => exact hd.symm.trans hresult
      | ok => exact ih (hresult.symm.trans hd)

theorem outcome_perform (d : Dialogue P) (state : Mapping) (vs : List Value) :
    (d.perform state vs).1 = (d.perform state vs).2.standing.outcome := by
  rw [perform]
  cases h : (d.opening state).standing.outcome with
  | error cause => exact h.symm
  | ok => exact outcome_run h vs

/-- Textual keys stay so. -/
structure IsTextual (d : Dialogue P) : Prop where
  opening : ∀ state, state.IsTextual → (d.opening state).state.IsTextual
  answer : ∀ p v state, state.IsTextual → (d.answer p v state).state.IsTextual

end Dialogue

/-- The flow serves the dialogue: it waits at the leaves that stand for the places, and in states
    with textual keys each of its walks, through `n` leaves at most, comes to what the dialogue
    says. -/
structure Element.Serves {P : Type} (e : Element) (d : Dialogue P) (leaf : P → Mapping → Address)
    (n : Nat) : Prop where
  textual : d.IsTextual
  opening : ∀ state, state.IsTextual → ∃ a, e.StartsAt [] a ∧
    e.Responds n (.execute a) state ((d.opening state).locate leaf)
  answer : ∀ p v state, state.IsTextual →
    e.Responds n (.input (leaf p state) v) state ((d.answer p v state).locate leaf)

namespace Conversation

variable {P : Type} {c c₀ : Conversation} {x : Entry} {d : Dialogue P} {y : View P}
  {leaf : P → Mapping → Address} {n limit k : Nat} {r : Response P}

/-- From outside the conversation looks like this. -/
structure Looks (c : Conversation) (y : View P) : Prop where
  state : c.state = y.state
  turns : c.turns = y.turns
  events : c.scene.events = y.events
  isAwaiting : c.isAwaiting = y.standing.isWaiting
  isFinished : c.isFinished = y.standing.isOver

/-- The conversation has come from another one by calls, has been started, and stands where the
    view says. -/
structure Follows (c₀ : Conversation) (leaf : P → Mapping → Address) (c : Conversation)
    (y : View P) : Prop extends c.Looks y where
  history : ∃ xs : List Entry, c = xs.foldl enter c₀
  started : c.started = true
  textual : y.state.IsTextual
  waits : ∀ p, y.standing = .waiting p → c.scene.top.WaitsAt (leaf p y.state)

/-- Nothing has been called of the conversation yet. Its flow serves the dialogue, its front end
    records all that it is told, its initial keys are texts, and the number of tasks is enough
    for each of its calls. -/
structure Offers (c₀ : Conversation) (d : Dialogue P) (leaf : P → Mapping → Address)
    (limit : Nat) : Prop where
  fresh : c₀.IsFresh
  frontEnd : c₀.frontEnd = some .recording
  turns : c₀.turns = 0
  events : c₀.scene.events = []
  initial : c₀.initial.IsTextual
  serves : ∃ n, c₀.opened.Serves d leaf n ∧ tasksFor c₀.opened.height n ≤ limit

/-! ### One call -/

/-- The flags of the session tell where it stands. -/
theorem flags_of_standing {e : Element} {s : Standing P} {leaf : P → Address}
    (hwaits : ∀ p, s = .waiting p → e.WaitsAt (leaf p)) (hover : s = .ended → e.IsOver)
    (hfailed : ∀ cause, s = .failed cause → e.IsUnsettled) :
    e.session.awaiting = s.isWaiting ∧ e.session.finished = s.isOver := by
  cases s with
  | waiting p => exact ⟨(hwaits p rfl).awaiting, (hwaits p rfl).finished⟩
  | ended => exact ⟨(hover rfl).awaiting, (hover rfl).finished⟩
  | failed cause => exact hfailed cause rfl

/-- A recording front end keeps the inputs of a call. -/
theorem heard_of_recording (h₀ : c₀.IsFresh) (hf : c₀.frontEnd = some .recording)
    (h : c.frontEnd = c₀.opened.session.frontEnd) (x : Entry) :
    c.heard x = x.inputs.map .input := by
  obtain ⟨m, keys, hm⟩ := h₀.outermost
  rw [heard, h, frontEnd_opened hm, hf]
  rfl

/-- A call that is taken comes to the response that its walk comes to, whatever the front end
    takes. -/
theorem enter_of_responds (h₀ : c₀.IsFresh) (hphase : c.Phase)
    (hc : ∃ xs : List Entry, c = xs.foldl enter c₀) (ha : c.admits x = true)
    (hlimit : tasksFor c₀.opened.height n ≤ x.limit)
    (ht : ∀ t, x.Reaches c t →
      c₀.opened.Responds n t (c.flowFor x).session.state (r.locate leaf)) :
    (x.turn c).1 = r.standing.outcome ∧ (c.enter x).state = r.state ∧
      (c.enter x).turns = c.turns + x.inputs.length ∧
      (c.enter x).scene.events = c.scene.events ++ c.heard x ++ r.events ∧
      (∀ p, r.standing = .waiting p → (c.enter x).scene.top.WaitsAt (leaf p r.state)) ∧
      (r.standing = .ended → (c.enter x).scene.top.IsOver) := by
  obtain ⟨xs, rfl⟩ := hc
  obtain ⟨q, htakes⟩ := takes_of_admits hphase ha
  obtain ⟨t, log, hreach, hg, htaken⟩ := exists_isTaken hphase.isIntact ha (h₀.enacts xs ha)
    c₀.opened.length_le_height
  obtain ⟨w, hw, hlen, hevents, hstate, hstop⟩ := ht t hreach
  obtain ⟨ts, s, hs, hts, hends⟩ := htaken w hw
  obtain ⟨hwaits, hover⟩ := hends htakes.begins
  obtain ⟨log', hturn⟩ := hs.turn_eq hg (hts.le.trans ((tasksFor_mono hlen).trans hlimit))
  have hstop' : w.stop = (r.standing.map fun p => leaf p r.state).stop := hstop
  -- The call comes to the scene in which the walk stops.
  have hcalled : (xs.foldl enter c₀).enter x =
      { (xs.foldl enter c₀).taking x log with scene := { s with log := log' } } := by
    rw [enter, hturn]
  have htop : ((xs.foldl enter c₀).enter x).scene.top = s.top := by rw [hcalled]
  refine ⟨?_, ?_, ?_, ?_, fun p hst => ?_, fun hst => ?_⟩
  · rw [hturn, hstop']
    cases r.standing <;> rfl
  · rw [state_eq htakes.wired, htop, hs.state, hstate]
    rfl
  · rw [hcalled]
    rfl
  · rw [hcalled]
    exact hs.events.trans (congrArg _ hevents)
  · exact htop ▸ hwaits _ (by rw [hstop', hst]; rfl)
  · exact htop ▸ hover (by rw [hstop', hst]; rfl)

/-- Over a recording front end the conversation looks like the response then. -/
theorem turn_of_responds (h₀ : c₀.IsFresh) (hf : c₀.frontEnd = some .recording)
    (hc : ∃ xs : List Entry, c = xs.foldl enter c₀) (ha : c.admits x = true)
    (hlimit : tasksFor c₀.opened.height n ≤ x.limit)
    (ht : ∀ t, x.Reaches c t →
      c₀.opened.Responds n t (c.flowFor x).session.state (r.locate leaf)) :
    (x.turn c).1 = r.standing.outcome ∧
      (c.enter x).Looks (⟨r.state, c.turns + x.inputs.length,
        c.scene.events ++ x.inputs.map .input ++ r.events, r.standing⟩ : View P) ∧
      (c.enter x).started = true ∧
      ∀ p, r.standing = .waiting p → (c.enter x).scene.top.WaitsAt (leaf p r.state) := by
  have hhistory := hc
  obtain ⟨xs, rfl⟩ := hc
  obtain ⟨hphase, hrec⟩ := Phase.foldl (.fresh h₀) ⟨_, hf, fun _ => rfl⟩ xs
  obtain ⟨hresult, hstate, hturns, hevents, hwaits, hover⟩ :=
    enter_of_responds h₀ hphase hhistory ha hlimit ht
  obtain ⟨q, htakes⟩ := takes_of_admits hphase ha
  have hwired := htakes.wired
  rw [heard_of_recording h₀ hf (htakes.frontEnd.symm.trans (h₀.enacts xs ha).frontEnd)] at hevents
  obtain ⟨hawaiting, hfinished⟩ := flags_of_standing hwaits hover fun cause hst =>
    (htakes.of_error hrec (hresult.trans (by rw [hst]; rfl))).2
  exact ⟨hresult, ⟨hstate, hturns, hevents, (isAwaiting_eq hwired).trans hawaiting,
    (isFinished_eq hwired).trans hfinished⟩, htakes.started, hwaits⟩

namespace Offers

/-- To start the conversation opens the dialogue. -/
theorem start (hd : c₀.Offers d leaf limit) (hlimit : limit ≤ k + 1) :
    ((Entry.start k).turn c₀).1 = (d.opening c₀.initial).standing.outcome ∧
      c₀.Follows leaf (c₀.enter (.start k)) (d.start c₀.initial) := by
  obtain ⟨n, he, hn⟩ := hd.serves
  have ha : c₀.admits (.start k) = true := by simp [admits, hd.fresh.started]
  have hnothing : ∃ xs : List Entry, c₀ = xs.foldl enter c₀ := ⟨[], rfl⟩
  -- To start is to execute the leaf at which the flow starts, in the state that has been given.
  have hresponds : ∀ t, (Entry.start k).Reaches c₀ t → c₀.opened.Responds n t
      (c₀.flowFor (.start k)).session.state ((d.opening c₀.initial).locate leaf) := by
    intro t hreach
    obtain ⟨a, ha, hresp⟩ := he.opening _ hd.initial
    cases hreach with
    | start hb =>
      obtain rfl := hb.unique ha
      rw [flowFor, state_opened hd.fresh]
      exact hresp
  obtain ⟨hresult, hlooks, hstarted, hwaits⟩ :=
    turn_of_responds hd.fresh hd.frontEnd hnothing ha (hn.trans hlimit) hresponds
  rw [hd.turns, hd.events] at hlooks
  exact ⟨hresult, hlooks, ⟨[.start k], rfl⟩, hstarted, he.textual.opening _ hd.initial, hwaits⟩

/-- Each input has the result that it has in the dialogue. -/
theorem deliver (hd : c₀.Offers d leaf limit) (hlimit : limit ≤ k + 1) (hy : c₀.Follows leaf c y)
    (v : Value) : ((Entry.deliver k v).turn c).1 = (d.deliver y v).1 ∧
      c₀.Follows leaf (c.enter (.deliver k v)) (d.deliver y v).2 := by
  obtain ⟨n, he, hn⟩ := hd.serves
  obtain ⟨xs, hxs⟩ := hy.history
  have hawaiting := hy.isAwaiting
  have hfinished := hy.isFinished
  cases hst : y.standing with
  | waiting p =>
    have hwait := hy.waits p hst
    have ha : c.admits (.deliver k v) = true := by
      simp [admits, accepts, hy.started, hawaiting, hfinished, hst, Standing.isWaiting,
        Standing.isOver]
    have hresponds : ∀ t, (Entry.deliver k v).Reaches c t → c₀.opened.Responds n t
        (c.flowFor (.deliver k v)).session.state ((d.answer p v y.state).locate leaf) := by
      intro t hreach
      cases hreach with
      | deliver hact hl =>
        -- The active leaf is the one that has asked.
        obtain ⟨l', hl', -⟩ := hwait.asker
        obtain rfl := hact.eq_of_leaf hl hwait.active hl'
        rw [flowFor, ← state_eq hwait.wired, hy.state]
        exact he.answer p v _ hy.textual
    obtain ⟨hresult, hlooks, hstarted, hwaits⟩ :=
      turn_of_responds hd.fresh hd.frontEnd ⟨xs, hxs⟩ ha (hn.trans hlimit) hresponds
    rw [hy.turns, hy.events, List.append_assoc] at hlooks
    simp only [Dialogue.deliver, hst]
    exact ⟨hresult, hlooks, ⟨xs ++ [.deliver k v], by rw [List.foldl_append, ← hxs]; rfl⟩,
      hstarted, he.textual.answer _ _ _ hy.textual, hwaits⟩
  | ended | failed cause =>
    -- Nothing is taken, and nothing changes.
    have ha : c.admits (.deliver k v) = false := by
      simp [admits, accepts, hawaiting, hst, Standing.isWaiting]
    have hrefusal := (Entry.deliver k v).turn_of_refused ha
    rw [refusal, hy.started, hfinished, hst] at hrefusal
    simp only [Dialogue.deliver, hst, enter, hrefusal]
    exact ⟨rfl, hy⟩

/-! ### Histories -/

/-- So does every history of inputs. -/
theorem deliverAll (hd : c₀.Offers d leaf limit) (hlimit : limit ≤ k + 1)
    (hy : c₀.Follows leaf c y) (vs : List Value) :
    c.results (vs.map (.deliver k)) = d.results y vs ∧
      c₀.Follows leaf ((vs.map (.deliver k)).foldl enter c) (d.after y vs) := by
  induction vs generalizing c y with
  | nil => exact ⟨rfl, hy⟩
  | cons v vs ih =>
    obtain ⟨hresult, hnext⟩ := hd.deliver hlimit hy v
    obtain ⟨hresults, hlast⟩ := ih hnext
    refine ⟨?_, hlast⟩
    rw [List.map_cons, results, hresult, hresults]
    rfl

/-- A history of inputs after the start has the results that it has in the dialogue, and the
    conversation looks like the dialogue then. -/
theorem history (hd : c₀.Offers d leaf limit) (hlimit : limit ≤ k + 1) (vs : List Value) :
    c₀.results (.start k :: vs.map (.deliver k)) =
        (d.opening c₀.initial).standing.outcome :: d.results (d.start c₀.initial) vs ∧
      ((Entry.start k :: vs.map (.deliver k)).foldl enter c₀).Looks
        (d.after (d.start c₀.initial) vs) := by
  obtain ⟨hresult, hstart⟩ := hd.start hlimit
  obtain ⟨hresults, hlast⟩ := hd.deliverAll hlimit hstart vs
  rw [results, hresult, hresults]
  exact ⟨rfl, hlast.toLooks⟩

/-- A call, and what follows it unless it fails. -/
theorem turn_bind (c : Conversation) (x : Entry) (rest : Turn Unit) :
    (x.turn >>= fun _ => rest) c =
      match (x.turn c).1 with
      | .error cause => (.error cause, c.enter x)
      | .ok _ => rest (c.enter x) := by
  rw [bind_apply, enter]
  rcases x.turn c with ⟨r, c'⟩
  cases r <;> rfl

theorem deliverAll_cons (c : Conversation) (k : Nat) (v : Value) (vs : List Value) :
    Turn.deliverAll (k + 1) (v :: vs) c = if c.isFinished then (.ok (), c)
      else ((Entry.deliver k v).turn >>= fun _ => Turn.deliverAll (k + 1) vs) c := by
  rw [Turn.deliverAll, bind_apply, get_apply]
  cases hf : c.isFinished <;> simp only [hf] <;> rfl

theorem run_of_not_started {c : Conversation} (h : c.started = false) (k : Nat)
    (vs : List Value) : (Request.run k vs).turn c =
      ((Entry.start k).turn >>= fun _ => Turn.deliverAll (k + 1) vs) c := by
  rw [Request.turn, Turn.run, bind_apply, get_apply]
  simp only [h]
  rfl

/-- Inputs that are handed over until the flow is over come to what they come to in the
    dialogue. -/
theorem run_of_follows (hd : c₀.Offers d leaf limit) (hlimit : limit ≤ k + 1)
    (hy : c₀.Follows leaf c y) (vs : List Value) :
    (Turn.deliverAll (k + 1) vs c).1 = (d.run y vs).1 ∧
      c₀.Follows leaf (Turn.deliverAll (k + 1) vs c).2 (d.run y vs).2 := by
  induction vs generalizing c y with
  | nil => exact ⟨rfl, hy⟩
  | cons v vs ih =>
    obtain ⟨hresult, hnext⟩ := hd.deliver hlimit hy v
    rw [deliverAll_cons, turn_bind, Dialogue.run, ← hy.isFinished, ← hresult]
    cases c.isFinished with
    | true => exact ⟨rfl, hy⟩
    | false =>
      cases ((Entry.deliver k v).turn c).1 with
      | error cause => exact ⟨rfl, hnext⟩
      | ok => exact ih hnext

/-- A run of a new conversation comes to what it comes to in the dialogue. -/
theorem run (hd : c₀.Offers d leaf limit) (hlimit : limit ≤ k + 1) (vs : List Value) :
    ((Request.run k vs).turn c₀).1 = (d.perform c₀.initial vs).1 ∧
      ((Request.run k vs).turn c₀).2.Looks (d.perform c₀.initial vs).2 := by
  obtain ⟨hresult, hstart⟩ := hd.start hlimit
  rw [run_of_not_started hd.fresh.started, turn_bind, Dialogue.perform, ← hresult]
  cases ((Entry.start k).turn c₀).1 with
  | error cause => exact ⟨rfl, hstart.toLooks⟩
  | ok =>
    obtain ⟨hrun, hlast⟩ := hd.run_of_follows hlimit hstart vs
    exact ⟨hrun, hlast.toLooks⟩

end Offers

end Conversation

end Parley

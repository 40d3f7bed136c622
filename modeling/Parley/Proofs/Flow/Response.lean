import Parley.Proofs.Flow.Patching
import Parley.Proofs.Flow.Walk

/-!
# Responses

What a walk comes to for someone outside: what the front end is told, the state that is left,
and where the flow stands then (`Response`). It can be worked out leaf by leaf
(`Element.Responds`), from what each leaf shows and asks, from the leaf that it hands over to
(`Element.Acts`) and from what the front end takes of it (`Element.Hears`).

* `Element.Acts.responds_of_asks` and its companions: a leaf that is executed asks, passes on or
  fails;
* `Element.Acts.responds_of_next` and its companions: an input to a leaf leads to another leaf,
  to the end of the session or to a failure.
-/

namespace Parley

open Element

/-- Where a flow stands between two calls. -/
inductive Standing (Place : Type) where
  | waiting (p : Place)
  | ended
  | failed (cause : Fault)

namespace Standing

variable {P Q : Type}

def map (f : P → Q) : Standing P → Standing Q
  | .waiting p => .waiting (f p)
  | .ended => .ended
  | .failed cause => .failed cause

/-- How a walk stops that leaves the flow so. -/
def stop : Standing Address → Stop
  | .waiting a => .asked a
  | .ended => .ended
  | .failed cause => .failed cause

/-- How a call ends that leaves the flow so. -/
def outcome : Standing P → Except Fault Unit
  | .failed cause => .error cause
  | _ => .ok ()

end Standing

/-- What is told, the state that is left, and where the flow stands. -/
structure Response (Place : Type) where
  events : List Event
  state : Mapping
  standing : Standing Place

namespace Response

variable {P : Type}

/-- The response with the leaves at which a flow waits in place of its places. -/
def locate (leaf : P → Mapping → Address) (r : Response P) : Response Address :=
  ⟨r.events, r.state, r.standing.map fun p => leaf p r.state⟩

/-- The response after some events. -/
def after (events : List Event) (r : Response P) : Response P :=
  { r with events := events ++ r.events }

/-- The response after what is shown in a state, unless that fails. -/
def saying (shows : Mapping → Except Fault (Option Payload)) (state : Mapping)
    (r : Response P) : Response P :=
  match shows state with
  | .ok shown => r.after (shown.toList.map .output)
  | .error cause => ⟨[], state, .failed cause⟩

section

variable {shows : Mapping → Except Fault (Option Payload)} {state : Mapping} {r : Response P}
  {shown : Option Payload} {cause : Fault}

theorem saying_of_ok (h : shows state = .ok shown) :
    r.saying shows state = r.after (shown.toList.map .output) := by
  rw [saying, h]

theorem saying_of_error (h : shows state = .error cause) :
    r.saying shows state = ⟨[], state, .failed cause⟩ := by
  rw [saying, h]

theorem state_saying (h : r.state = state) : (r.saying shows state).state = state := by
  unfold saying
  cases shows state with
  | error cause => rfl
  | ok shown => exact h

/-- A response that waits has been come to. -/
theorem exists_of_saying {p : P} (h : (r.saying shows state).standing = .waiting p) :
    ∃ shown, shows state = .ok shown ∧ r.standing = .waiting p := by
  cases hx : shows state with
  | error cause =>
    rw [saying_of_error hx] at h
    cases h
  | ok shown =>
    rw [saying_of_ok hx] at h
    exact ⟨shown, rfl, h⟩

theorem standing_of_saying {p : P} (h : (r.saying shows state).standing = .waiting p) :
    r.standing = .waiting p := by
  obtain ⟨-, -, h⟩ := exists_of_saying h
  exact h

theorem locate_saying (leaf : P → Mapping → Address) :
    (r.saying shows state).locate leaf = (r.locate leaf).saying shows state := by
  unfold saying
  cases shows state <;> rfl

end

end Response

namespace Element

/-- From the task on, in the state, a walk through `n` leaves at most comes to the response. -/
def Responds (e : Element) (n : Nat) (t : Task) (state : Mapping) (r : Response Address) : Prop :=
  ∃ w, e.Walks t state w ∧ w.leaves.length ≤ n ∧
    w.events = r.events ∧ w.state = r.state ∧ w.stop = r.standing.stop

/-- Where an input to a leaf leads: to the leaf that is executed next, or to the end of the
    session, with the state that is left then. -/
inductive Hands (e : Element) (a : Address) (v : Value) (state : Mapping) :
    Except Fault (Mapping × Option Address) → Prop
  | failed {x : Escalation} {cause : Fault} : e.Passes a v state x → x.exit = .failed cause →
      x.state = state → Hands e a v state (.error cause)
  | moved {x : Escalation} {b : Address} : e.Passes a v state x → x.exit.Reaches e b →
      Hands e a v state (.ok (x.state, some b))
  | ended {x : Escalation} : e.Passes a v state x → x.exit = .ended →
      Hands e a v state (.ok (x.state, none))

/-- There is a leaf of this make at the address. -/
def HasLeaf (e : Element) (a : Address) (decider : Decider)
    (output expectation : Option Emitter) : Prop :=
  ∃ l, e.part? a = some (.leaf l) ∧ l.decider = decider ∧ l.output = output ∧
    l.expectation = expectation

/-- There is a manager of this make at the address. -/
def HasManager (e : Element) (a : Address) (root : String) (decider : Option Decider) : Prop :=
  ∃ m keys, e.part? a = some (.manager m keys) ∧ m.root = root ∧ m.decider = decider

/-- What the leaf at an address does in some states: what it shows, unless that fails; what it
    asks, if anything; and where it leads on an input. -/
structure Acts (e : Element) (a : Address) (states : Mapping → Prop)
    (shows : Mapping → Except Fault (Option Payload)) (asks : Option Payload)
    (next : Value → Mapping → Except Fault (Mapping × Option Address)) : Prop where
  exists_leaf : ∃ decider x,
    e.HasLeaf a decider (some x) (asks.map fun q => ⟨some q, .identity⟩) ∧
    ∀ state, states state → x.transform state x.payload = shows state
  hands : ∀ v state, states state → e.Hands a v state (next v state)

variable {e : Element} {a b p : Address} {states : Mapping → Prop} {n : Nat} {v : Value}
  {shows : Mapping → Except Fault (Option Payload)} {asks : Option Payload} {q : Payload}
  {next : Value → Mapping → Except Fault (Mapping × Option Address)} {state state' : Mapping}
  {shown : Option Payload} {cause : Fault} {r : Response Address}

theorem Responds.mono {t : Task} {k : Nat} (h : e.Responds n t state r) (hk : n ≤ k) :
    e.Responds k t state r := by
  obtain ⟨w, hw, hlen, hr⟩ := h
  exact ⟨w, hw, hlen.trans hk, hr⟩

/-! ### What a leaf does -/

/-- The front end takes the events. -/
def Hears (e : Element) (events : List Event) : Prop :=
  ∀ event ∈ events, e.session.reception event = .ok ()

theorem hears_of_isReceptive (h : e.session.IsReceptive) (events : List Event) : e.Hears events :=
  fun _ _ => Manager.IsReceptive.reception h _

/-- What a leaf shows to a session that takes it. -/
theorem shows_of_hears {x : Emitter} (hx : x.transform state x.payload = .ok shown)
    (h : e.Hears (shown.toList.map .output)) :
    Shows (e.sessionIn state) (some x) (.ok ()) (shown.toList.map .output) := by
  cases shown with
  | none => exact .suppressed hx
  | some payload => exact .shown hx (h _ List.mem_cons_self)

namespace Acts

/-- Its leaf asks as it says, and shows what it says to a session that takes it. -/
theorem exists_shows (h : e.Acts a states shows asks next) (hs : states state)
    (hx : shows state = .ok shown) (hr : e.Hears (shown.toList.map .output)) :
    ∃ l, e.part? a = some (.leaf l) ∧ l.expectation = asks.map (fun q => ⟨some q, .identity⟩) ∧
      Shows (e.sessionIn state) l.output (.ok ()) (shown.toList.map .output) := by
  obtain ⟨-, x, ⟨l, hl, -, ho, hq⟩, hshows⟩ := h.exists_leaf
  refine ⟨l, hl, hq, ?_⟩
  rw [ho]
  exact shows_of_hears ((hshows state hs).trans hx) hr

theorem responds_of_fails (h : e.Acts a states shows asks next) (hs : states state)
    (hx : shows state = .error cause) :
    e.Responds 1 (.execute a) state ⟨[], state, .failed cause⟩ := by
  obtain ⟨-, x, ⟨l, hl, -, ho, -⟩, hshows⟩ := h.exists_leaf
  have hshown : Shows (e.sessionIn state) l.output (.error cause) [] := by
    rw [ho]
    exact .failed ((hshows state hs).trans hx)
  exact ⟨_, .unshown hl hshown, le_rfl, rfl, rfl, rfl⟩

/-- What is shown cannot be taken. -/
theorem responds_of_refused (h : e.Acts a states shows asks next) (hs : states state)
    {payload : Payload} (hx : shows state = .ok (some payload))
    (hr : e.session.reception (.output payload) = .error cause) :
    e.Responds 1 (.execute a) state ⟨[], state, .failed cause⟩ := by
  obtain ⟨-, x, ⟨l, hl, -, ho, -⟩, hshows⟩ := h.exists_leaf
  have hshown : Shows (e.sessionIn state) l.output (.error cause) [] := by
    rw [ho]
    exact .refused ((hshows state hs).trans hx) hr
  exact ⟨_, .unshown hl hshown, le_rfl, rfl, rfl, rfl⟩

/-- A leaf that asks waits, if the front end takes what it shows before. -/
theorem responds_of_asks (h : e.Acts a states shows (some q) next) (hs : states state)
    (hr : e.Hears ((⟨[.expectation q], state, .waiting a⟩ : Response Address).saying
      shows state).events) :
    e.Responds 1 (.execute a) state
      ((⟨[.expectation q], state, .waiting a⟩ : Response Address).saying shows state) := by
  cases hx : shows state with
  | error cause =>
    rw [Response.saying_of_error hx]
    exact h.responds_of_fails hs hx
  | ok shown =>
    rw [Response.saying_of_ok hx] at hr ⊢
    obtain ⟨l, hl, hq, hshown⟩ := h.exists_shows hs hx fun event he =>
      hr event (List.mem_append_left _ he)
    have hasked : Asks (e.sessionIn state) ⟨some q, .identity⟩ (.ok ()) [.expectation q] true :=
      .asked rfl (hr _ (List.mem_append_right _ List.mem_cons_self))
    exact ⟨_, .asked hl hshown hq hasked, le_rfl, rfl, rfl, rfl⟩

/-- A leaf that does not ask goes on, unless it fails to show something. -/
theorem responds_of_passes (h : e.Acts a states shows none next) (hs : states state)
    (hr : e.Hears (r.saying shows state).events)
    (hn : e.Hears r.events → e.Responds n (.input a .null) state r) :
    e.Responds (n + 1) (.execute a) state (r.saying shows state) := by
  cases hx : shows state with
  | error cause =>
    rw [Response.saying_of_error hx]
    exact (h.responds_of_fails hs hx).mono (Nat.succ_le_succ (Nat.zero_le n))
  | ok shown =>
    rw [Response.saying_of_ok hx] at hr ⊢
    obtain ⟨l, hl, hq, hshown⟩ := h.exists_shows hs hx fun event he =>
      hr event (List.mem_append_left _ he)
    obtain ⟨w, hw, hlen, hevents, hstate, hstop⟩ := hn fun event he =>
      hr event (List.mem_append_right _ he)
    exact ⟨_, .passed hl hshown hq hw, Nat.succ_le_succ hlen, congrArg _ hevents, hstate, hstop⟩

theorem responds_of_error (h : e.Acts a states shows asks next) (hs : states state)
    (hx : next v state = .error cause) :
    e.Responds 0 (.input a v) state ⟨[], state, .failed cause⟩ := by
  have hands := h.hands v state hs
  rw [hx] at hands
  cases hands with
  | @failed x cause hpass hexit hstate =>
    exact ⟨_, .halted hpass (hexit ▸ .failed), le_rfl, rfl, hstate, rfl⟩

theorem responds_of_next (h : e.Acts a states shows asks next) (hs : states state)
    (hx : next v state = .ok (state', some b)) (hn : e.Responds n (.execute b) state' r) :
    e.Responds n (.input a v) state r := by
  have hands := h.hands v state hs
  rw [hx] at hands
  cases hands with
  | moved hpass hb =>
    obtain ⟨w, hw, hlen, hevents, hstate, hstop⟩ := hn
    exact ⟨_, .moved hpass hb hw, hlen, hevents, hstate, hstop⟩

theorem responds_of_end (h : e.Acts a states shows asks next) (hs : states state)
    (hx : next v state = .ok (state', none)) (hr : e.Hears [.ended]) :
    e.Responds 0 (.input a v) state ⟨[.ended], state', .ended⟩ := by
  have hands := h.hands v state hs
  rw [hx] at hands
  cases hands with
  | ended hpass hexit =>
    exact ⟨_, .halted hpass (hexit ▸ .ended (hr _ List.mem_cons_self)), le_rfl, rfl, rfl,
      rfl⟩

end Acts

/-! ### Levels -/

mutual

/-- The number of levels below the top. -/
def height : Element → Nat
  | .leaf _ => 0
  | .manager _ cs => heightBelow cs

/-- The number of levels of a holder's children. -/
def heightBelow : List (String × Element) → Nat
  | [] => 0
  | (_, e) :: cs => max (height e + 1) (heightBelow cs)

end

theorem height_lt_of_lookup {key : String} {x : Element} {cs : List (String × Element)}
    (h : lookup key cs = some x) : x.height < heightBelow cs := by
  induction cs with
  | nil => cases h
  | cons c cs ih =>
    rw [lookup_cons] at h
    rw [heightBelow]
    split at h
    · cases h
      omega
    · have := ih h
      omega

/-- No address is longer than the flow has levels. -/
theorem length_le_height (e : Element) :
    ∀ a, (e.part? a).isSome → a.length ≤ e.height := by
  induction e using induction_on_children with
  | leaf l =>
    intro a ha
    obtain ⟨p, hp⟩ := Option.isSome_iff_exists.1 ha
    rw [(part?_leaf_eq_some hp).1]
    exact Nat.zero_le _
  | manager m cs ih =>
    intro a ha
    obtain ⟨p, hp⟩ := Option.isSome_iff_exists.1 ha
    -- An address below a manager ends with the key of a child, which has less height.
    rcases part?_manager_cases hp with ⟨rfl, -⟩ | ⟨key, x, c, rfl, hx, hp⟩
    · exact Nat.zero_le _
    · have hbelow := ih key x hx c (Option.isSome_of_mem hp)
      have hlt := height_lt_of_lookup hx
      rw [List.length_append, List.length_singleton, height]
      omega

/-! ### Where a leaf leads -/

theorem StartsAt.isSome (h : e.StartsAt a b) : (e.part? a).isSome := by
  cases h <;> exact Option.isSome_of_mem ‹_›

section

variable {d : Decider} {output expectation : Option Emitter} {md : Option Decider}
  {d' : Decider} {k key root root' target : String} {es : Mapping}

theorem HasLeaf.startsAt (h : e.HasLeaf a d output expectation) : e.StartsAt a a := by
  obtain ⟨l, hl, -⟩ := h
  exact .leaf hl

theorem HasManager.startsAt (h : e.HasManager a root md) (hb : e.StartsAt (root :: a) b) :
    e.StartsAt a b := by
  obtain ⟨m, keys, hm, rfl, -⟩ := h
  exact .manager hm hb

/-- A decision with textual keys is merged into such a state. -/
theorem merges_goto (hs : state.IsTextual) (hes : es.IsTextual) :
    Merges state (Decision.patchOf es) (.ok ()) (state.merge es) := by
  cases es with
  | nil => exact .nothing rfl
  | cons entry es =>
    obtain ⟨keys, hkeys⟩ := (hs.merge hes).exists_keysLiteral
    exact .merged rfl rfl hkeys

namespace Hands

theorem of_error (hl : e.HasLeaf (key :: p) d output expectation)
    (hd : d.decision (some v) state = .error cause) :
    e.Hands (key :: p) v state (.error cause) := by
  obtain ⟨l, hl, rfl, -⟩ := hl
  exact .failed (.undecided hl hd) rfl rfl

/-- A leaf that goes to another child of its holder leads to the leaf at which that starts. -/
theorem of_goto (target : String) (es : Mapping)
    (hl : e.HasLeaf (key :: p) d output expectation)
    (hd : d.decision (some v) state = .ok (.goto (.text target) es)) (hs : state.IsTextual)
    (hes : es.IsTextual) (hb : e.StartsAt (target :: p) b) :
    e.Hands (key :: p) v state (.ok (state.merge es, some b)) := by
  obtain ⟨l, hl, rfl, -⟩ := hl
  exact .moved (.moved hl hd (merges_goto hs hes) rfl rfl) ⟨p, target, rfl, hb.isSome, hb⟩

/-- One that finishes leads to where the manager above it goes. -/
theorem of_finish (hl : e.HasLeaf (k :: key :: p) d output expectation)
    (hd : d.decision (some v) state = .ok (.finish []))
    (hm : e.HasManager (key :: p) root (some d'))
    (hgo : d'.decision none state = .ok (.goto (.text target) []))
    (hb : e.StartsAt (target :: p) b) : e.Hands (k :: key :: p) v state (.ok (state, some b)) := by
  obtain ⟨l, hl, rfl, -⟩ := hl
  obtain ⟨m, keys, hm, -, hdecider⟩ := hm
  have hdecision : m.decision state = .ok (.goto (.text target) []) := by
    rw [Manager.decision, hdecider, ← hgo]
  exact .moved (.closed hl hd (.nothing rfl) rfl
    (.routed hm hdecision (.nothing rfl) rfl rfl))
    ⟨p, target, rfl, hb.isSome, hb⟩

/-- One that finishes below managers that finish leads to the end of the session. -/
theorem of_last (hl : e.HasLeaf [k, key] d output expectation)
    (hd : d.decision (some v) state = .ok (.finish [])) (hm : e.HasManager [key] root none)
    (ht : e.HasManager [] root' none) : e.Hands [k, key] v state (.ok (state, none)) := by
  obtain ⟨l, hl, rfl, -⟩ := hl
  obtain ⟨m, keys, hm, -, hdecider⟩ := hm
  obtain ⟨m', keys', hm', -, hdecider'⟩ := ht
  have hdecision {m : Manager} (h : m.decider = none) : m.decision state = .ok ⟨.null, .null⟩ := by
    rw [Manager.decision, h]
  exact .ended (.closed hl hd (.nothing rfl) rfl (.deferred hm (hdecision hdecider) (.nothing rfl)
    rfl (.ended hm' (hdecision hdecider') (.nothing rfl) rfl))) rfl

end Hands

end

end Element

end Parley

import Mathlib.Data.List.Infix
import Parley.Proofs.Flow.Framing
import Parley.Proofs.Flow.Passage

/-!
# Walks

A traversal seen from its leaves. A leaf that is executed shows its output, and either asks
for an input or passes on with an empty one; the passage ends at an exit, and where the exit
is a move to a child the leaf is executed at which the child starts (`Exit.Reaches`). So a
traversal is a walk from leaf to leaf (`Element.Walks`), which stops when a leaf waits for
an input, the session ends or something fails (`Stop`).

* `Element.Walks.leads`: the machine does what the walk says, and takes at most a number of
  tasks for each leaf that depends on the height of the flow only;
* `Walk.IsTaken.waitsAt` and `Walk.IsTaken.isOver`: in the course of a turn the walk stops
  where the session waits, or where it is over.
-/

namespace Parley

open Element

/-- How a walk stops. -/
inductive Stop where
  /-- The leaf at the address has asked for an input. -/
  | asked (leaf : Address)
  /-- The session has ended. -/
  | ended
  | failed (cause : Fault)

/-- The result of the last task. -/
def Stop.result : Stop → Except Fault (Option Task)
  | .failed cause => .error cause
  | _ => .ok none

/-- What a walk comes to: the leaves that are executed, what is told and asked on the way, the
    state that is left, and how it stops. -/
structure Walk where
  leaves : List Address
  events : List Event
  calls : List Call
  state : Mapping
  stop : Stop

/-- The exit is a move to the child from which the leaf at the address is reached. -/
def Exit.Reaches (e : Element) (x : Exit) (b : Address) : Prop :=
  ∃ p key, x = .moved p (.text key) ∧ (e.part? (key :: p)).isSome ∧ e.StartsAt (key :: p) b

/-- The exit reaches no leaf: it stops the walk, and the front end is told the events. -/
inductive Exit.Halts (e : Element) : Exit → Stop → List Event → Prop
  | ended : e.session.reception .ended = .ok () → Halts e .ended .ended [.ended]
  | endRefused {cause : Fault} : e.session.reception .ended = .error cause →
      Halts e .ended (.failed cause) []
  | outside {name : String} {target : Value} : Halts e (.outside name target)
      (.failed (.configuration (.routedOutside name target.plain))) []
  | failed {cause : Fault} : Halts e (.failed cause) (.failed cause) []
  /-- The manager that is to move does not hold the target. -/
  | strayed {p : Address} {m : Manager} {keys : List String} {target : Value} :
      e.part? p = some (.manager m keys) → (∀ key ∈ keys, target ≠ .text key) →
      Halts e (.moved p target) (.failed (m.stray target)) []

namespace Element

/-- The session in a state. -/
def sessionIn (e : Element) (state : Mapping) : Manager :=
  { e.session with state := state }

/-- The walks from the execution of a leaf, or from an input to it, in a state. -/
inductive Walks (e : Element) : Task → Mapping → Walk → Prop
  | unshown {a : Address} {l : Leaf} {state : Mapping} {cause : Fault} {shown : List Event} :
      e.part? a = some (.leaf l) → Shows (e.sessionIn state) l.output (.error cause) shown →
      Walks e (.execute a) state ⟨[a], shown, [], state, .failed cause⟩
  | unasked {a : Address} {l : Leaf} {state : Mapping} {shown asked : List Event}
      {question : Emitter} {cause : Fault} {awaiting : Bool} :
      e.part? a = some (.leaf l) → Shows (e.sessionIn state) l.output (.ok ()) shown →
      l.expectation = some question →
      Asks (e.sessionIn state) question (.error cause) asked awaiting →
      Walks e (.execute a) state ⟨[a], shown ++ asked, [], state, .failed cause⟩
  | asked {a : Address} {l : Leaf} {state : Mapping} {shown asked : List Event}
      {question : Emitter} {awaiting : Bool} :
      e.part? a = some (.leaf l) → Shows (e.sessionIn state) l.output (.ok ()) shown →
      l.expectation = some question →
      Asks (e.sessionIn state) question (.ok ()) asked awaiting →
      Walks e (.execute a) state ⟨[a], shown ++ asked, [], state, .asked a⟩
  | passed {a : Address} {l : Leaf} {state : Mapping} {shown : List Event} {w : Walk} :
      e.part? a = some (.leaf l) → Shows (e.sessionIn state) l.output (.ok ()) shown →
      l.expectation = none → Walks e (.input a .null) state w →
      Walks e (.execute a) state
        ⟨a :: w.leaves, shown ++ w.events, w.calls, w.state, w.stop⟩
  | halted {a : Address} {v : Value} {state : Mapping} {x : Escalation} {stop : Stop}
      {events : List Event} :
      e.Passes a v state x → x.exit.Halts e stop events →
      Walks e (.input a v) state ⟨[], events, x.calls, x.state, stop⟩
  | moved {a b : Address} {v : Value} {state : Mapping} {x : Escalation} {w : Walk} :
      e.Passes a v state x → x.exit.Reaches e b → Walks e (.execute b) x.state w →
      Walks e (.input a v) state ⟨w.leaves, w.events, x.calls ++ w.calls, w.state, w.stop⟩

variable {e e' : Element} {a b c p : Address} {key : String} {m : Manager} {keys : List String}
  {state : Mapping}

/-- An element starts at one leaf. -/
theorem StartsAt.unique (h : e.StartsAt a b) (h' : e.StartsAt a c) : b = c := by
  induction h with
  | leaf hl =>
    cases h' with
    | leaf => rfl
    | manager hm =>
      rw [hl] at hm
      cases hm
  | manager hm _ ih =>
    cases h' with
    | leaf hl =>
      rw [hm] at hl
      cases hl
    | manager hm' h' =>
      rw [hm] at hm'
      cases hm'
      exact ih h'

/-- Where all managers hold their roots, every element starts at some leaf. -/
theorem exists_startsAt (h : e.Wired) (hp : (e.part? a).isSome) :
    ∃ b l, e.StartsAt a b ∧ e.part? b = some (.leaf l) := by
  obtain ⟨q, hq⟩ := Option.isSome_iff_exists.1 hp
  obtain ⟨x, hx, -⟩ := exists_at? hq
  -- The root of a manager is a smaller element.
  induction x using induction_on_children generalizing a q with
  | leaf l =>
    have hl : e.part? a = some (.leaf l) := by rw [part?, hx]; rfl
    exact ⟨a, l, .leaf hl, hl⟩
  | manager m cs ih =>
    have hm : e.part? a = some (.manager m (cs.map Prod.fst)) := by rw [part?, hx]; rfl
    obtain ⟨y, hy⟩ := exists_lookup (h.rooted hm)
    have hy' : e.at? (m.root :: a) = some y := by rw [at?_cons, hx]; exact hy
    have hq' : e.part? (m.root :: a) = some y.part := by rw [part?, hy']; rfl
    obtain ⟨b, l, hb, hl⟩ := ih m.root y hy (by rw [hq']; rfl) _ hq' hy'
    exact ⟨b, l, .manager hm hb, hl⟩

end Element

/-- An exit reaches a leaf or stops the walk. -/
theorem Exit.reaches_or_halts {e : Element} (h : e.Wired) (x : Exit)
    (hx : ∀ p target, x = .moved p target → ∃ m keys, e.part? p = some (.manager m keys)) :
    (∃ b, x.Reaches e b) ∨ ∃ stop events, x.Halts e stop events := by
  cases x with
  | ended =>
    cases hr : e.session.reception .ended with
    | error cause => exact .inr ⟨_, _, .endRefused hr⟩
    | ok => exact .inr ⟨_, _, .ended hr⟩
  | outside name target => exact .inr ⟨_, _, .outside⟩
  | failed cause => exact .inr ⟨_, _, .failed⟩
  | moved p target =>
    obtain ⟨m, keys, hm⟩ := hx p target rfl
    by_cases ht : ∃ key ∈ keys, target = .text key
    · obtain ⟨key, hk, rfl⟩ := ht
      have hchild := part?_cons_isSome_iff.2 ⟨m, keys, hm, hk⟩
      obtain ⟨b, l, hb, -⟩ := exists_startsAt h hchild
      exact .inl ⟨b, p, key, rfl, hchild, hb⟩
    · exact .inr ⟨_, _, .strayed hm fun key hk h => ht ⟨key, hk, h⟩⟩

/-! ### The machine takes it -/

namespace Element

/-- The flow has the design and the front end of another one, and its session is not over. -/
structure Enacts (e' e : Element) : Prop where
  design : SameDesign e' e
  frontEnd : e'.session.frontEnd = e.session.frontEnd
  finished : e'.session.finished = false

namespace Enacts

variable {e e' : Element} {a : Address} {t t' : Task} {o : Outcome} {l : Leaf}

theorem step (h : e'.Enacts e) (hs : t.Step e' o) (ho : o.result = .ok (some t')) :
    o.top.Enacts e :=
  ⟨hs.sameDesign.trans h.design, hs.frontEnd_eq.trans h.frontEnd, hs.unfinished h.finished ho⟩

theorem reception (h : e'.Enacts e) (event : Event) :
    e'.session.reception event = e.session.reception event :=
  h.design.reception h.frontEnd event

theorem shows (h : e'.Enacts e) {x : Option Emitter} {r : Except Fault Unit} {shown : List Event}
    (hs : Shows (e.sessionIn e'.session.state) x r shown) : Shows e'.session x r shown :=
  hs.congr rfl h.reception

/-- Whether a session that fails to ask waits does not matter to a walk. -/
theorem asks (h : e'.Enacts e) {x : Emitter} {r : Except Fault Unit} {asked : List Event}
    {awaiting : Bool} (hs : Asks (e.sessionIn e'.session.state) x r asked awaiting) :
    ∃ awaiting, Asks e'.session x r asked awaiting := by
  cases hs with
  | failed ht => exact ⟨_, .failed ht⟩
  | unasked ht => exact ⟨_, .unasked ht⟩
  | asked ht hr => exact ⟨_, .asked ht ((h.reception _).trans hr)⟩
  | refused ht hr => exact ⟨_, .refused ht ((h.reception _).trans hr)⟩

/-- A manager that does not hold its target says so by its name. -/
theorem stray (h : e'.Enacts e) {m : Manager} {keys : List String}
    (hm : e.part? a = some (.manager m keys)) : ∃ m', e'.part? a = some (.manager m' keys) ∧
      ∀ target, m'.stray target = m.stray target := by
  obtain ⟨m', hm', hname, -⟩ := h.design.symm.exists_decision hm
  exact ⟨m', hm', Manager.stray_congr hname⟩

end Enacts

end Element

/-- The machine does what the walk says, from the task on, by the given tasks. -/
structure Walk.IsTaken (w : Walk) (t : Task) (s : Scene) (ts : List Task) (s' : Scene) :
    Prop where
  leads : t.Leads s ts w.stop.result s'
  events : s'.events = s.events ++ w.events
  calls : s'.calls = s.calls ++ w.calls
  state : s'.top.session.state = w.state
  asked : ∀ a, w.stop = .asked a →
    ts.getLast? = some (.execute a) ∧ s'.top.session.finished = false
  ended : w.stop = .ended → s'.top.session.finished = true

namespace Walk.IsTaken

variable {w : Walk} {t t' : Task} {s s₁ s' : Scene} {ts ts' : List Task} {a : Address}

/-- What leads to the first task of a walk comes before it. -/
theorem cons (h : w.IsTaken t' s₁ ts' s') (hleads : t.Leads s ts (.ok (some t')) s₁)
    (leaves : List Address) (events : List Event) (calls : List Call)
    (hevents : s₁.events = s.events ++ events) (hcalls : s₁.calls = s.calls ++ calls) :
    IsTaken ⟨leaves, events ++ w.events, calls ++ w.calls, w.state, w.stop⟩ t s (ts ++ ts') s' where
  leads := hleads.append h.leads
  events := by rw [h.events, hevents, List.append_assoc]
  calls := by rw [h.calls, hcalls, List.append_assoc]
  state := h.state
  asked a ha := by
    obtain ⟨hlast, hopen⟩ := h.asked a ha
    exact ⟨by simp [List.getLast?_append, hlast], hopen⟩
  ended := h.ended

/-- In the course of a turn a walk that asks stops where the session waits. -/
theorem waitsAt (h : w.IsTaken t s ts s') (hi : InFlight s.top t) (hw : w.stop = .asked a) :
    s'.top.WaitsAt a := by
  have hleads := h.leads
  rw [hw] at hleads
  obtain ⟨hlast, hopen⟩ := h.asked a hw
  rcases hleads.settled hi with ⟨b, hlast', hb⟩ | hover
  · rw [hlast] at hlast'
    cases hlast'
    exact hb
  · rw [hover.finished] at hopen
    cases hopen

/-- One that ends stops where the session is over. -/
theorem isOver (h : w.IsTaken t s ts s') (hi : InFlight s.top t) (hw : w.stop = .ended) :
    s'.top.IsOver := by
  have hleads := h.leads
  rw [hw] at hleads
  rcases hleads.settled hi with ⟨b, -, hb⟩ | hover
  · have hf := h.ended hw
    rw [hb.finished] at hf
    cases hf
  · exact hover

end Walk.IsTaken

namespace Task

variable {e : Element} {s : Scene} {a b : Address} {v : Value} {x : Escalation} {n : Nat}

theorem Leads.enacts {t t' : Task} {ts : List Task} {s' : Scene}
    (h : t.Leads s ts (.ok (some t')) s') (hf : t.Fits s.top) (hs : s.top.Enacts e) :
    t'.Fits s'.top ∧ s'.top.Enacts e :=
  h.preserves (I := fun e' _ => e'.Enacts e) hf hs fun _ h ho hres => h.step ho hres

/-- The machine performs a passage by no more tasks than the flow has levels, and comes to its
    exit. -/
theorem exists_leads_of_passes (h : e.Passes a v s.top.session.state x)
    (hs : s.top.Enacts e) (hf : (Task.input a v).Fits s.top) : ∃ ts s',
      (Task.input a v).Leads s ts (x.exit.taken e.session).1 s' ∧
      s'.calls = s.calls ++ x.calls ∧ s'.events = s.events ++ (x.exit.taken e.session).2 ∧
      s'.top.session.state = x.state ∧ (s'.top.session.finished = true ↔ x.exit = .ended) ∧
      ts.length ≤ a.length + 1 := by
  have hp := h.of_sameDesign hs.design.symm
  obtain ⟨key, p, l, rfl, hl⟩ := hp.exists_leaf
  obtain ⟨y, s', hy, hleads, hcalls, hevents, hstate, -, hfin⟩ := exists_passage hf hs.finished hl
  obtain rfl := hy.unique hp
  rw [y.exit.taken_congr (hs.reception _)] at hleads hevents
  refine ⟨_, s', hleads, hcalls, hevents, hstate, hfin, ?_⟩
  have hlen := hy.asked_prefix.length_le
  rw [List.length_tails] at hlen
  simpa using hlen

/-- An exit that halts makes the machine stop, after a move that fails at the most. -/
theorem exists_isTaken_of_halts {t : Task} {ts : List Task} {s' : Scene} {stop : Stop}
    {events : List Event} (hx : x.exit.Halts e stop events) (hf : t.Fits s.top)
    (hs : s.top.Enacts e) (hleads : t.Leads s ts (x.exit.taken e.session).1 s')
    (hcalls : s'.calls = s.calls ++ x.calls)
    (hevents : s'.events = s.events ++ (x.exit.taken e.session).2)
    (hstate : s'.top.session.state = x.state)
    (hfin : s'.top.session.finished = true ↔ x.exit = .ended) : ∃ ts' s',
      Walk.IsTaken ⟨[], events, x.calls, x.state, stop⟩ t s ts' s' ∧
      ts'.length ≤ ts.length + 1 := by
  obtain ⟨asked, calls, state, exit⟩ := x
  cases hx with
  | ended hr =>
    simp only [Exit.taken, hr] at hleads hevents
    exact ⟨ts, s', ⟨hleads, hevents, hcalls, hstate, by simp, fun _ => hfin.2 rfl⟩, by omega⟩
  | endRefused hr =>
    simp only [Exit.taken, hr] at hleads hevents
    exact ⟨ts, s', ⟨hleads, hevents, hcalls, hstate, by simp, by simp⟩, by omega⟩
  | outside | failed =>
    exact ⟨ts, s', ⟨hleads, hevents, hcalls, hstate, by simp, by simp⟩, by omega⟩
  | @strayed p m keys target hm ht =>
    have hres : (Exit.moved p target).taken e.session = (.ok (some (.move p target)), []) := rfl
    rw [hres] at hleads hevents
    obtain ⟨hfit, hs'⟩ := hleads.enacts hf hs
    obtain ⟨m', hm', hstray⟩ := hs'.stray hm
    obtain ⟨log, hstep⟩ := step_eq hfit (.strayed hm' ht)
    rw [hstray] at hstep
    exact ⟨_, _, ⟨hleads.concat hstep, by simp [Outcome.scene, hevents],
      by simp [Outcome.scene, hcalls], hstate, by simp, by simp⟩, by simp⟩

/-- An exit that reaches a leaf makes the machine go there, by no more tasks than the flow has
    levels on the way up and on the way down. -/
theorem exists_leads_of_reaches (hx : e.Passes a v s.top.session.state x)
    (hb : x.exit.Reaches e b) (hn : ∀ a, (e.part? a).isSome → a.length ≤ n)
    (hs : s.top.Enacts e) (hf : (Task.input a v).Fits s.top) : ∃ ts s',
      (Task.input a v).Leads s ts (.ok (some (.execute b))) s' ∧ s'.calls = s.calls ++ x.calls ∧
      s'.events = s.events ∧ s'.top.session.state = x.state ∧ ts.length ≤ 2 * n + 2 := by
  obtain ⟨p, key, hexit, hchild, hb⟩ := hb
  obtain ⟨ts, s₁, hleads, hcalls, hevents, hstate, -, hlen⟩ := exists_leads_of_passes hx hs hf
  rw [hexit] at hleads hevents
  -- The manager moves, and the machine goes down to the leaf at which the child starts.
  obtain ⟨hf₁, hs₁⟩ := hleads.enacts hf hs
  obtain ⟨m, keys, hm, hk⟩ := exists_holder hchild
  obtain ⟨m', hm', -⟩ := hs₁.stray hm
  obtain ⟨ts', b', l, log, hb', hleads', hl, hlen', -⟩ :=
    exists_leads_to_child hf₁ hs₁.finished hm' hk
  obtain rfl := (hb'.of_sameDesign hs₁.design).unique hb
  refine ⟨_, _, hleads.append hleads', hcalls, ?_, state_moveTo.trans hstate, ?_⟩
  · exact hevents.trans (List.append_nil _)
  · obtain ⟨-, -, l', -, hl'⟩ := hx.exists_leaf
    obtain ⟨l'', hl'', -⟩ := (sameDesign_moveTo.trans hs₁.design).exists_leaf hl
    have hup := hn a (Option.isSome_of_mem hl')
    have hdown := hn b' (Option.isSome_of_mem hl'')
    simp only [List.length_append, List.length_cons]
    omega

/-- A step that comes to an end is a walk of its own. -/
theorem Step.exists_isTaken {t : Task} {o : Outcome} (ho : t.Step s.top o) (hf : t.Fits s.top)
    (leaves : List Address) (stop : Stop) (hres : o.result = stop.result)
    (hstate : o.top.session.state = s.top.session.state)
    (hasked : ∀ a, stop = .asked a → t = .execute a ∧ o.top.session.finished = false)
    (hended : stop ≠ .ended) :
    ∃ s', Walk.IsTaken ⟨leaves, o.events, o.calls, s.top.session.state, stop⟩ t s [t] s' := by
  obtain ⟨log, hstep⟩ := step_eq hf ho
  refine ⟨_, .last (hres ▸ hstep), rfl, rfl, hstate, fun a ha => ?_, fun h => absurd h hended⟩
  obtain ⟨rfl, hopen⟩ := hasked a ha
  exact ⟨rfl, hopen⟩

end Task

namespace Element

variable {e : Element} {t : Task} {state : Mapping} {w : Walk} {n : Nat}

/-- The machine does what a walk says. It takes at most `2 * n + 3` tasks for each leaf, and
    for the input that the walk begins with, if the flow has `n` levels below the top. -/
theorem Walks.leads (h : e.Walks t state w) (hn : ∀ a, (e.part? a).isSome → a.length ≤ n)
    {s : Scene} (hs : s.top.Enacts e) (hf : t.Fits s.top) (hstate : s.top.session.state = state) :
    ∃ ts s', w.IsTaken t s ts s' ∧
      (∀ a, t = .execute a → ts.length ≤ (2 * n + 3) * w.leaves.length) ∧
      ts.length < (2 * n + 3) * (w.leaves.length + 1) := by
  -- This is by induction on the walk; its cases are those of the leaf at which it begins.
  induction h generalizing s with
  | @unshown a l state cause shown hl hshown =>
    subst hstate
    obtain ⟨l', hl', -, -, hout, -⟩ := hs.design.symm.exists_leaf hl
    obtain ⟨s', ht⟩ := (Task.Step.unshown hl' (hout ▸ hs.shows hshown)).exists_isTaken hf [a]
      (.failed cause) rfl (by simp) (by simp) (by simp)
    exact ⟨_, s', ht, fun _ _ => by simp, by simp; omega⟩
  | @unasked a l state shown asked question cause awaiting hl hshown hq hask =>
    subst hstate
    obtain ⟨l', hl', -, -, hout, hexp⟩ := hs.design.symm.exists_leaf hl
    obtain ⟨awaiting', hask'⟩ := hs.asks hask
    obtain ⟨s', ht⟩ := (Task.Step.asked hl' (hout ▸ hs.shows hshown) (hexp.trans hq)
      hask').exists_isTaken hf [a] (.failed cause) rfl (by simp) (by simp) (by simp)
    exact ⟨_, s', ht, fun _ _ => by simp, by simp; omega⟩
  | @asked a l state shown asked question awaiting hl hshown hq hask =>
    subst hstate
    obtain ⟨l', hl', -, -, hout, hexp⟩ := hs.design.symm.exists_leaf hl
    obtain ⟨awaiting', hask'⟩ := hs.asks hask
    obtain ⟨s', ht⟩ := (Task.Step.asked hl' (hout ▸ hs.shows hshown) (hexp.trans hq)
      hask').exists_isTaken hf [a] (.asked a) rfl (by simp)
        (fun b hb => ⟨by cases hb; rfl, by simpa using hs.finished⟩) (by simp)
    exact ⟨_, s', ht, fun _ _ => by simp, by simp; omega⟩
  | @passed a l state shown w hl hshown hq _ ih =>
    subst hstate
    obtain ⟨l', hl', -, -, hout, hexp⟩ := hs.design.symm.exists_leaf hl
    have ho := Task.Step.passed hl' (hout ▸ hs.shows hshown) (hexp.trans hq)
    obtain ⟨log, hstep⟩ := Task.step_eq hf ho
    obtain ⟨ts, s', ht, -, hlen⟩ := ih (s := { Outcome.scene _ s with log := log })
      (hs.step ho rfl) (ho.fits hf rfl) (by simp [Outcome.scene])
    have ht' := ht.cons (.last hstep) (a :: w.leaves) shown [] rfl rfl
    have hlen' : (Task.execute a :: ts).length ≤ (2 * n + 3) * (a :: w.leaves).length := hlen
    refine ⟨_, s', ht', fun _ _ => hlen', hlen'.trans_lt ?_⟩
    exact Nat.mul_lt_mul_of_pos_left (Nat.lt_succ_self _) (Nat.succ_pos _)
  | @halted a v state x stop events hx hhalt =>
    subst hstate
    obtain ⟨ts, s', hleads, hcalls, hevents, hst, hfin, hlen⟩ :=
      Task.exists_leads_of_passes hx hs hf
    obtain ⟨ts', s'', ht, hlen'⟩ :=
      Task.exists_isTaken_of_halts hhalt hf hs hleads hcalls hevents hst hfin
    obtain ⟨-, -, l, -, hl⟩ := hx.exists_leaf
    have hheight := hn a (Option.isSome_of_mem hl)
    exact ⟨ts', s'', ht, by simp, by simp; omega⟩
  | @moved a b v state x w hx hb _ ih =>
    subst hstate
    obtain ⟨ts, s₁, hleads, hcalls, hevents, hstate, hlen⟩ :=
      Task.exists_leads_of_reaches hx hb hn hs hf
    obtain ⟨hf₁, hs₁⟩ := hleads.enacts hf hs
    obtain ⟨ts', s', ht, hlen', -⟩ := ih hs₁ hf₁ hstate
    have hlen' := hlen' b rfl
    refine ⟨_, s', ht.cons hleads w.leaves [] x.calls (by simpa using hevents) hcalls, by simp, ?_⟩
    simp only [List.length_append, Nat.mul_add]
    omega

end Element

end Parley

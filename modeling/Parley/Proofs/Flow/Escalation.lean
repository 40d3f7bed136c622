import Parley.Proofs.Flow.Determined
import Parley.Proofs.Flow.Patching

/-!
# Escalation

When the traversal of its children is over, a manager decides where to go. If it goes
nowhere, the traversal of its holder's children is over too, and the holder decides in
its turn, and so on up to the outermost manager (`Element.Escalates`). Each manager that
is asked finds the state with the patches of those that have been asked before it.

* `Element.Escalates.unique` and `Element.Escalates.of_sameDesign`: the design of the
  flow and the state in which it begins decide what it comes to;
* `Element.Escalates.asked_prefix`: those that are asked are the innermost ones of the
  managers above, one after the other, without a gap;
* `Task.exists_escalation`: to close a manager makes the machine close those that are
  asked, and nothing else, and come to the exit that the escalation comes to;
* `Element.Escalates.ne_failed`: it does not fail where managers decide and hand over
  textual keys.
-/

namespace Parley

open Element

/-- How an escalation ends. -/
inductive Exit where
  /-- The manager at the address is to move to a child. -/
  | moved (holder : Address) (target : Value)
  /-- The outermost manager ends the session. -/
  | ended
  /-- The outermost manager names a target, and nothing holds it. -/
  | outside (name : String) (target : Value)
  /-- A manager does not decide, or its patch cannot be merged, or its target not written. -/
  | failed (cause : Fault)

namespace Exit

/-- The result of the last task. -/
def result : Exit → Except Fault (Option Task)
  | .moved holder target => .ok (some (.move holder target))
  | .ended => .ok none
  | .outside name target => .error (.configuration (.routedOutside name target.plain))
  | .failed cause => .error cause

/-- What the front end is told. -/
def events : Exit → List Event
  | .ended => [.ended]
  | _ => []

/-- The result of the last task and what the front end is told, which may refuse to be told
    of the end. -/
def taken (m : Manager) (x : Exit) : Except Fault (Option Task) × List Event :=
  match x, m.reception .ended with
  | .ended, .error cause => (.error cause, [])
  | x, _ => (x.result, x.events)

theorem taken_congr {m m' : Manager} (h : m'.reception .ended = m.reception .ended) (x : Exit) :
    x.taken m' = x.taken m := by
  unfold taken
  rw [h]

/-- A front end that takes all that it is told takes every exit as it is. -/
theorem taken_eq {m : Manager} (h : m.IsReceptive) (x : Exit) :
    x.taken m = (x.result, x.events) := by
  cases x <;> simp [taken, h.reception]

end Exit

/-- What an escalation comes to: the managers that are asked, the calls that are made of
    them, the state that they leave, and how it ends. -/
structure Escalation where
  asked : List Address
  calls : List Call
  state : Mapping
  exit : Exit

namespace Element

/-- The escalation from the manager at an address on, in a state. -/
inductive Escalates (e : Element) : Address → Mapping → Escalation → Prop
  | undecided {a : Address} {m : Manager} {keys : List String} {state : Mapping} {cause : Fault} :
      e.part? a = some (.manager m keys) → m.decision state = .error cause →
      Escalates e a state ⟨[a], m.consultations state, state, .failed cause⟩
  | unmerged {a : Address} {m : Manager} {keys : List String} {state state' : Mapping}
      {d : Decision} {cause : Fault} :
      e.part? a = some (.manager m keys) → m.decision state = .ok d →
      Merges state d.patch (.error cause) state' →
      Escalates e a state ⟨[a], m.consultations state, state', .failed cause⟩
  | unnamed {a : Address} {m : Manager} {keys : List String} {state state' : Mapping}
      {d : Decision} :
      e.part? a = some (.manager m keys) → m.decision state = .ok d →
      Merges state d.patch (.ok ()) state' → d.next.isWritable = false →
      Escalates e a state ⟨[a], m.consultations state, state', .failed (.misuse .digits)⟩
  | routed {key : String} {p : Address} {m : Manager} {keys : List String}
      {state state' : Mapping} {d : Decision} :
      e.part? (key :: p) = some (.manager m keys) → m.decision state = .ok d →
      Merges state d.patch (.ok ()) state' → d.finishes = false → d.next.isWritable = true →
      Escalates e (key :: p) state
        ⟨[key :: p], m.consultations state, state', .moved p d.next⟩
  | deferred {key : String} {p : Address} {m : Manager} {keys : List String}
      {state state' : Mapping} {d : Decision} {x : Escalation} :
      e.part? (key :: p) = some (.manager m keys) → m.decision state = .ok d →
      Merges state d.patch (.ok ()) state' → d.finishes = true → Escalates e p state' x →
      Escalates e (key :: p) state
        ⟨(key :: p) :: x.asked, m.consultations state ++ x.calls, x.state, x.exit⟩
  | ended {m : Manager} {keys : List String} {state state' : Mapping} {d : Decision} :
      e.part? [] = some (.manager m keys) → m.decision state = .ok d →
      Merges state d.patch (.ok ()) state' → d.finishes = true →
      Escalates e [] state ⟨[[]], m.consultations state, state', .ended⟩
  | outside {m : Manager} {keys : List String} {state state' : Mapping} {d : Decision} :
      e.part? [] = some (.manager m keys) → m.decision state = .ok d →
      Merges state d.patch (.ok ()) state' → d.finishes = false → d.next.isWritable = true →
      Escalates e [] state ⟨[[]], m.consultations state, state', .outside m.name d.next⟩

variable {e e' : Element} {a : Address} {m : Manager} {keys : List String} {state : Mapping}
  {x : Escalation}

/-- Those that are asked are the innermost managers, in their order. -/
theorem Escalates.asked_prefix (h : e.Escalates a state x) : x.asked <+: a.tails := by
  induction h with
  | @undecided a | @unmerged a | @unnamed a => cases a <;> simp
  | routed => simp
  | deferred _ _ _ _ _ ih =>
    rw [List.tails]
    exact (List.prefix_cons_inj _).2 ih
  | ended | outside => simp

/-- Where an escalation begins, and in which state, decides what it comes to. -/
theorem Escalates.unique {x' : Escalation} (h : e.Escalates a state x)
    (h' : e.Escalates a state x') : x = x' := by
  induction h generalizing x' with
  | undecided => cases h' <;> simp_all
  | unmerged | unnamed | routed | deferred | ended | outside =>
    cases h' <;> grind [→ Merges.unique, → Decision.finishes_of_not_isWritable]

/-- A manager decides and is consulted as its design says. -/
theorem SameDesign.exists_decision (h : SameDesign e e')
    (hm : e.part? a = some (.manager m keys)) : ∃ m', e'.part? a = some (.manager m' keys) ∧
      m'.name = m.name ∧ (∀ state, m'.decision state = m.decision state) ∧
      ∀ state, m'.consultations state = m.consultations state := by
  obtain ⟨q, hq, hd⟩ := h.exists_part hm
  cases q with
  | leaf => cases hd
  | manager m' keys' =>
    obtain ⟨hidle, rfl⟩ := Part.manager.inj hd
    have hname := congrArg Manager.name hidle
    have hdecider := congrArg Manager.decider hidle
    exact ⟨m', hq, hname, Manager.decision_congr hdecider,
      Manager.consultations_congr hname hdecider⟩

/-- What an escalation comes to is a matter of design. -/
theorem Escalates.of_sameDesign (h : e.Escalates a state x) (hs : SameDesign e e') :
    e'.Escalates a state x := by
  induction h with
  | undecided hm hd =>
    obtain ⟨m', hm', -, hdec, hcons⟩ := hs.exists_decision hm
    exact hcons _ ▸ .undecided hm' ((hdec _).trans hd)
  | unmerged hm hd hg =>
    obtain ⟨m', hm', -, hdec, hcons⟩ := hs.exists_decision hm
    exact hcons _ ▸ .unmerged hm' ((hdec _).trans hd) hg
  | unnamed hm hd hg hw =>
    obtain ⟨m', hm', -, hdec, hcons⟩ := hs.exists_decision hm
    exact hcons _ ▸ .unnamed hm' ((hdec _).trans hd) hg hw
  | routed hm hd hg hfin hw =>
    obtain ⟨m', hm', -, hdec, hcons⟩ := hs.exists_decision hm
    exact hcons _ ▸ .routed hm' ((hdec _).trans hd) hg hfin hw
  | deferred hm hd hg hfin _ ih =>
    obtain ⟨m', hm', -, hdec, hcons⟩ := hs.exists_decision hm
    exact hcons _ ▸ .deferred hm' ((hdec _).trans hd) hg hfin ih
  | ended hm hd hg hfin =>
    obtain ⟨m', hm', -, hdec, hcons⟩ := hs.exists_decision hm
    exact hcons _ ▸ .ended hm' ((hdec _).trans hd) hg hfin
  | outside hm hd hg hfin hw =>
    obtain ⟨m', hm', hname, hdec, hcons⟩ := hs.exists_decision hm
    exact hname ▸ hcons _ ▸ .outside hm' ((hdec _).trans hd) hg hfin hw

end Element

/-- The manager decides in every state with textual keys, and hands over such keys only; what it
    names can be written. -/
def Manager.IsReliable (m : Manager) : Prop :=
  ∀ state : Mapping, state.IsTextual →
    ∃ d, m.decision state = .ok d ∧ d.IsTextual ∧ d.next.isWritable = true

variable {e : Element} {a : Address} {state : Mapping} {x : Escalation} {s : Scene}

/-- Reliable managers do not fail. -/
theorem Element.Escalates.ne_failed (h : e.Escalates a state x) (hs : state.IsTextual)
    (hm : ∀ b m keys, b <:+ a → e.part? b = some (.manager m keys) → m.IsReliable)
    (cause : Fault) : x.exit ≠ .failed cause := by
  induction h with
  | @undecided a m keys state _ hp hd =>
    obtain ⟨d, hd', -⟩ := hm a m keys List.suffix_rfl hp state hs
    rw [hd] at hd'
    cases hd'
  | @unmerged a m keys state _ d _ hp hd hg =>
    obtain ⟨d', hd', ht, -⟩ := hm a m keys List.suffix_rfl hp state hs
    rw [hd] at hd'
    cases hd'
    cases (hg.of_isTextual hs ht).1
  | @unnamed a m keys state _ d hp hd _ hw =>
    obtain ⟨d', hd', -, hw'⟩ := hm a m keys List.suffix_rfl hp state hs
    rw [hd] at hd'
    cases hd'
    cases hw.symm.trans hw'
  | @deferred key p m keys state _ d _ hp hd hg _ _ ih =>
    obtain ⟨d', hd', ht, -⟩ := hm _ m keys List.suffix_rfl hp state hs
    rw [hd] at hd'
    cases hd'
    exact ih (hg.of_isTextual hs ht).2 fun b m keys hb =>
      hm b m keys (hb.trans (List.suffix_cons key p))
  | routed | ended | outside => exact nofun

/-- To close a manager comes to an exit at once, or to close its holder, and then the
    escalation goes on from there. -/
theorem Task.Step.escalates {o : Outcome} (hs : (Task.close a).Step e o) (hw : e.Wired)
    (hu : e.session.finished = false) :
    (∃ exit, e.Escalates a e.session.state ⟨[a], o.calls, o.top.session.state, exit⟩ ∧
      (o.result, o.events) = exit.taken e.session ∧
      (o.top.session.finished = true ↔ exit = .ended)) ∨
    ∃ key p, a = key :: p ∧ o.result = .ok (some (.close p)) ∧ o.events = [] ∧
      o.top.session.finished = false ∧ ∀ x, e.Escalates p o.top.session.state x →
        e.Escalates a e.session.state ⟨a :: x.asked, o.calls ++ x.calls, x.state, x.exit⟩ := by
  have hset (state : Mapping) : (e.setState state).session.state = state := by
    rw [hw.session_setState]
  -- All but a manager below the outermost one that goes nowhere comes to an exit.
  cases hs with
  | closeUndecided hm hd =>
    exact .inl ⟨.failed _, .undecided hm hd, rfl, by simp [hu]⟩
  | closeUnmerged hm hd hg =>
    refine .inl ⟨.failed _, ?_, rfl, by simp [hu]⟩
    rw [hset]
    exact .unmerged hm hd hg
  | closeUnnamed hm hd hg hw' =>
    refine .inl ⟨.failed _, ?_, rfl, by simp [hu]⟩
    rw [hset]
    exact .unnamed hm hd hg hw'
  | @closed p key m keys d state hm hd hg hw' =>
    have hstate : ((e.setState state).setCursor (key :: p) m.root).session.state = state := by
      rw [state_setCursor, hset]
    have hopen : ((e.setState state).setCursor (key :: p) m.root).session.finished = false := by
      rw [finished_setCursor, finished_setState, hu]
    rw [hstate]
    cases hfin : d.finishes with
    | false =>
      refine .inl ⟨.moved p d.next, .routed hm hd hg hfin hw', ?_, by simp [hopen]⟩
      simp [Decision.task, hfin, Exit.taken, Exit.result, Exit.events]
    | true =>
      refine .inr ⟨key, p, rfl, ?_, rfl, hopen, fun x => .deferred hm hd hg hfin⟩
      simp [Decision.task, hfin]
  | ended hm hd hg hfin htaken =>
    refine .inl ⟨.ended, ?_, ?_, iff_of_true (finished_setFinished hm) rfl⟩
    · rw [state_setFinished, hset]
      exact .ended hm hd hg hfin
    · simp [Exit.taken, htaken, Exit.result, Exit.events]
  | endRefused hm hd hg hfin hrefused =>
    refine .inl ⟨.ended, ?_, ?_, iff_of_true (finished_setFinished hm) rfl⟩
    · rw [state_setFinished, hset]
      exact .ended hm hd hg hfin
    · simp [Exit.taken, hrefused]
  | @routedOutside m _ d _ hm hd hg hfin hw' =>
    refine .inl ⟨.outside m.name d.next, ?_, rfl, by simp [hu]⟩
    rw [hset]
    exact .outside hm hd hg hfin hw'

/-- To close a manager makes the machine close all that are asked, and nothing else. -/
theorem Task.exists_escalation {a : Address} {s : Scene} (hf : (Task.close a).Fits s.top)
    (hu : s.top.session.finished = false) : ∃ x s',
      s.top.Escalates a s.top.session.state x ∧
      (Task.close a).Leads s (x.asked.map .close) (x.exit.taken s.top.session).1 s' ∧
      s'.calls = s.calls ++ x.calls ∧
      s'.events = s.events ++ (x.exit.taken s.top.session).2 ∧
      s'.top.session.state = x.state ∧ s'.top.Wired ∧
      (s'.top.session.finished = true ↔ x.exit = .ended) := by
  obtain ⟨o, hs, hy⟩ := step_spec hf
  obtain ⟨log, hstep⟩ := hy s.log
  rcases hs.escalates hf.wired hu with ⟨exit, hx, hres, hfin⟩ |
    ⟨key, p, rfl, hres, hev, hfin, hdefer⟩
  · obtain ⟨hres, hev⟩ := Prod.mk.inj hres
    rw [hres] at hstep
    exact ⟨_, _, hx, .last hstep, rfl, congrArg _ hev, rfl, hs.wired hf, hfin⟩
  · -- The holder closes next, in the flow and the state that the manager has left.
    rw [hres] at hstep
    let s₁ : Scene := { o.scene s with log := log }
    obtain ⟨x, s', hx, hleads, hcalls, hevents, hrest⟩ :=
      Task.exists_escalation (s := s₁) (hs.fits hf hres) hfin
    have htaken : x.exit.taken s₁.top.session = x.exit.taken s.top.session :=
      x.exit.taken_congr (hs.sameDesign.reception hs.frontEnd_eq _)
    rw [htaken] at hleads hevents
    refine ⟨_, s', hdefer x (hx.of_sameDesign hs.sameDesign), .next hstep hleads, ?_, ?_, hrest⟩
    · rw [hcalls, ← List.append_assoc]
      rfl
    · rw [hevents]
      simp [s₁, Outcome.scene, hev]
termination_by a.length

end Parley

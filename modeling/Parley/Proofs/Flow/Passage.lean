import Parley.Proofs.Flow.Entering
import Parley.Proofs.Flow.Escalation

/-!
# Passages

What an input to a leaf comes to (`Element.Passes`). The leaf decides and its patch is
merged. If it names a target that can be written, its holder is to move there; if it names none,
the traversal is over, and the managers above are asked, from the innermost one on. Either way
the passage ends at an exit, before another leaf is executed.

* `Element.Passes.unique` and `Element.exists_passes`: each input to a leaf has one passage,
  in each state;
* `Task.exists_passage`: the machine performs it, by the input and by closing the managers
  that are asked, and does nothing else; if the leaf finishes, it closes them in the state
  with the leaf's patch (`Task.exists_escalation_of_input`).
-/

namespace Parley

open Element

namespace Element

/-- What a leaf at an address makes of an input, in a state, and what the managers above it
    make of its decision. -/
inductive Passes (e : Element) : Address → Value → Mapping → Escalation → Prop
  | undecided {key : String} {p : Address} {l : Leaf} {v : Value} {state : Mapping}
      {cause : Fault} :
      e.part? (key :: p) = some (.leaf l) → l.decider.decision (some v) state = .error cause →
      Passes e (key :: p) v state
        ⟨[], [⟨l.name, l.decider.label, some v, state⟩], state, .failed cause⟩
  | unmerged {key : String} {p : Address} {l : Leaf} {v : Value} {state state' : Mapping}
      {d : Decision} {cause : Fault} :
      e.part? (key :: p) = some (.leaf l) → l.decider.decision (some v) state = .ok d →
      Merges state d.patch (.error cause) state' →
      Passes e (key :: p) v state
        ⟨[], [⟨l.name, l.decider.label, some v, state⟩], state', .failed cause⟩
  | unnamed {key : String} {p : Address} {l : Leaf} {v : Value} {state state' : Mapping}
      {d : Decision} :
      e.part? (key :: p) = some (.leaf l) → l.decider.decision (some v) state = .ok d →
      Merges state d.patch (.ok ()) state' → d.next.isWritable = false →
      Passes e (key :: p) v state
        ⟨[], [⟨l.name, l.decider.label, some v, state⟩], state', .failed (.misuse .digits)⟩
  | moved {key : String} {p : Address} {l : Leaf} {v : Value} {state state' : Mapping}
      {d : Decision} :
      e.part? (key :: p) = some (.leaf l) → l.decider.decision (some v) state = .ok d →
      Merges state d.patch (.ok ()) state' → d.finishes = false → d.next.isWritable = true →
      Passes e (key :: p) v state
        ⟨[], [⟨l.name, l.decider.label, some v, state⟩], state', .moved p d.next⟩
  | closed {key : String} {p : Address} {l : Leaf} {v : Value} {state state' : Mapping}
      {d : Decision} {x : Escalation} :
      e.part? (key :: p) = some (.leaf l) → l.decider.decision (some v) state = .ok d →
      Merges state d.patch (.ok ()) state' → d.finishes = true → Escalates e p state' x →
      Passes e (key :: p) v state
        ⟨x.asked, ⟨l.name, l.decider.label, some v, state⟩ :: x.calls, x.state, x.exit⟩

variable {e e' : Element} {a p : Address} {key : String} {v : Value} {state : Mapping}
  {x : Escalation} {l : Leaf} {m : Manager} {keys : List String}

/-- A leaf decides as its design says. -/
theorem SameDesign.exists_leaf (h : SameDesign e e') (hl : e.part? a = some (.leaf l)) :
    ∃ l', e'.part? a = some (.leaf l') ∧ l'.name = l.name ∧ l'.decider = l.decider ∧
      l'.output = l.output ∧ l'.expectation = l.expectation := by
  obtain ⟨q, hq, hd⟩ := h.exists_part hl
  cases q with
  | manager => cases hd
  | leaf l' =>
    have hidle := Part.leaf.inj hd
    rw [Leaf.mk.injEq] at hidle
    obtain ⟨hname, hdecider, houtput, hexpectation, -⟩ := hidle
    exact ⟨l', hq, hname, hdecider, houtput, hexpectation⟩

/-- What a passage comes to is a matter of design. -/
theorem Passes.of_sameDesign (h : e.Passes a v state x) (hs : SameDesign e e') :
    e'.Passes a v state x := by
  cases h with
  | undecided hl hd =>
    obtain ⟨l', hl', hname, hdec, -⟩ := hs.exists_leaf hl
    exact hname ▸ hdec ▸ .undecided hl' (hdec ▸ hd)
  | unmerged hl hd hg =>
    obtain ⟨l', hl', hname, hdec, -⟩ := hs.exists_leaf hl
    exact hname ▸ hdec ▸ .unmerged hl' (hdec ▸ hd) hg
  | unnamed hl hd hg hw =>
    obtain ⟨l', hl', hname, hdec, -⟩ := hs.exists_leaf hl
    exact hname ▸ hdec ▸ .unnamed hl' (hdec ▸ hd) hg hw
  | moved hl hd hg hfin hw =>
    obtain ⟨l', hl', hname, hdec, -⟩ := hs.exists_leaf hl
    exact hname ▸ hdec ▸ .moved hl' (hdec ▸ hd) hg hfin hw
  | closed hl hd hg hfin hx =>
    obtain ⟨l', hl', hname, hdec, -⟩ := hs.exists_leaf hl
    exact hname ▸ hdec ▸ .closed hl' (hdec ▸ hd) hg hfin (hx.of_sameDesign hs)

theorem Passes.unique {x' : Escalation} (h : e.Passes a v state x)
    (h' : e.Passes a v state x') : x = x' := by
  cases h with
  | undecided => cases h' <;> simp_all
  | unmerged | unnamed | moved =>
    cases h' <;> grind [→ Merges.unique, → Decision.finishes_of_not_isWritable]
  | closed =>
    cases h' <;>
      grind [→ Merges.unique, → Escalates.unique, → Decision.finishes_of_not_isWritable]

/-- What passes is a leaf below a manager. -/
theorem Passes.exists_leaf (h : e.Passes a v state x) :
    ∃ key p l, a = key :: p ∧ e.part? a = some (.leaf l) := by
  cases h <;> exact ⟨_, _, _, rfl, ‹_›⟩

/-! ### There is one -/

theorem exists_merges (state : Mapping) (patch : Value) :
    ∃ r state', Merges state patch r state' := by
  cases ht : patch.isTruthy with
  | false => exact ⟨_, _, .nothing ht⟩
  | true =>
    cases hm : state.mergeValue patch with
    | error cause => exact ⟨_, _, .refused ht hm⟩
    | ok merged =>
      cases hk : merged.keysLiteral with
      | error cause => exact ⟨_, _, .unlisted ht hm hk⟩
      | ok keys => exact ⟨_, _, .merged ht hm hk⟩

theorem exists_settles (state : Mapping) (decided : Except Fault Decision) :
    ∃ r state', Settles state decided r state' := by
  cases decided with
  | error cause => exact ⟨_, _, .undecided rfl⟩
  | ok d =>
    obtain ⟨r, state', hg⟩ := exists_merges state d.patch
    cases r with
    | error cause => exact ⟨_, _, .unmerged rfl hg⟩
    | ok => exact ⟨_, _, .merged rfl hg⟩

/-- What holds an element is a manager. -/
theorem exists_holder (h : (e.part? (key :: p)).isSome) :
    ∃ m keys, e.part? p = some (.manager m keys) ∧ key ∈ keys :=
  part?_cons_isSome_iff.1 h

theorem exists_escalates (hm : e.part? a = some (.manager m keys)) (state : Mapping) :
    ∃ x, e.Escalates a state x := by
  -- A manager that finishes below the top defers to its holder, which has a shorter address.
  induction a generalizing m keys state with
  | nil =>
    obtain ⟨r, state', hs⟩ := exists_settles state (m.decision state)
    cases hs with
    | undecided hd => exact ⟨_, .undecided hm hd⟩
    | unmerged hd hg => exact ⟨_, .unmerged hm hd hg⟩
    | @merged d _ hd hg =>
      rcases d.target_cases with hfin | ⟨hfin, hw⟩ | hw
      · exact ⟨_, .ended hm hd hg hfin⟩
      · exact ⟨_, .outside hm hd hg hfin hw⟩
      · exact ⟨_, .unnamed hm hd hg hw⟩
  | cons key p ih =>
    obtain ⟨r, state', hs⟩ := exists_settles state (m.decision state)
    cases hs with
    | undecided hd => exact ⟨_, .undecided hm hd⟩
    | unmerged hd hg => exact ⟨_, .unmerged hm hd hg⟩
    | @merged d _ hd hg =>
      rcases d.target_cases with hfin | ⟨hfin, hw⟩ | hw
      · obtain ⟨m', keys', hm', -⟩ := exists_holder (Option.isSome_of_mem hm)
        obtain ⟨x, hx⟩ := ih hm' state'
        exact ⟨_, .deferred hm hd hg hfin hx⟩
      · exact ⟨_, .routed hm hd hg hfin hw⟩
      · exact ⟨_, .unnamed hm hd hg hw⟩

/-- In a wired flow every input to a leaf has a passage. -/
theorem exists_passes (hw : e.Wired) (hl : e.part? a = some (.leaf l)) (v : Value)
    (state : Mapping) : ∃ x, e.Passes a v state x := by
  obtain ⟨key, p, rfl⟩ := hw.exists_cons hl
  obtain ⟨r, state', hs⟩ := exists_settles state (l.decider.decision (some v) state)
  cases hs with
  | undecided hd => exact ⟨_, .undecided hl hd⟩
  | unmerged hd hg => exact ⟨_, .unmerged hl hd hg⟩
  | @merged d _ hd hg =>
    rcases d.target_cases with hfin | ⟨hfin, hw⟩ | hw
    · obtain ⟨m, keys, hm, -⟩ := exists_holder (Option.isSome_of_mem hl)
      obtain ⟨x, hx⟩ := exists_escalates hm state'
      exact ⟨_, .closed hl hd hg hfin hx⟩
    · exact ⟨_, .moved hl hd hg hfin hw⟩
    · exact ⟨_, .unnamed hl hd hg hw⟩

/-- No more managers are asked than there are above the leaf. -/
theorem Passes.asked_prefix (h : e.Passes (key :: p) v state x) : x.asked <+: p.tails := by
  cases h with
  | closed _ _ _ _ hx => exact hx.asked_prefix
  | _ => exact List.nil_prefix

end Element

/-! ### The machine performs it -/

namespace Task

variable {e : Element} {p : Address} {key : String} {v : Value} {s : Scene}

/-- An input to a leaf comes to an exit at once, or to close its holder, and then the
    escalation goes on from there. -/
theorem Step.passes {o : Outcome} (hs : (Task.input (key :: p) v).Step e o) (hw : e.Wired)
    {l : Leaf} (hl : e.part? (key :: p) = some (.leaf l)) :
    (∃ exit, e.Passes (key :: p) v e.session.state ⟨[], o.calls, o.top.session.state, exit⟩ ∧
      (∀ m, exit.taken m = (o.result, o.events)) ∧ exit ≠ .ended ∧
      o.top.session.finished = e.session.finished) ∨
    o.result = .ok (some (.close p)) ∧ o.events = [] ∧
      ∀ x, e.Escalates p o.top.session.state x →
        e.Passes (key :: p) v e.session.state ⟨x.asked, o.calls ++ x.calls, x.state, x.exit⟩ := by
  have hset (state : Mapping) : (e.setState state).session.state = state := by
    rw [hw.session_setState]
  cases hs with
  | undecided hl hd => exact .inl ⟨.failed _, .undecided hl hd, fun _ => rfl, nofun, rfl⟩
  | unmerged hl hd hg =>
    refine .inl ⟨.failed _, ?_, fun _ => rfl, nofun, finished_setState⟩
    rw [hset]
    exact .unmerged hl hd hg
  | unnamed hl hd hg hw' =>
    refine .inl ⟨.failed _, ?_, fun _ => rfl, nofun, ?_⟩
    · rw [session_setStatus, hset]
      exact .unnamed hl hd hg hw'
    · rw [session_setStatus, finished_setState]
  | @decided _ _ l v d state hl hd hg hw' =>
    have hstate : ((e.setState state).setStatus (key :: p) .resolved).session.state = state := by
      rw [session_setStatus, hset]
    rw [hstate]
    cases hfin : d.finishes with
    | false =>
      refine .inl ⟨.moved p d.next, .moved hl hd hg hfin hw', fun _ => ?_, nofun, ?_⟩
      · simp [Decision.task, hfin, Exit.taken, Exit.result, Exit.events]
      · rw [session_setStatus, finished_setState]
    | true =>
      refine .inr ⟨?_, rfl, fun x => .closed hl hd hg hfin⟩
      simp [Decision.task, hfin]
  | handed hm =>
    rw [hm] at hl
    cases hl

/-- An input to a leaf makes the machine perform the passage, and nothing else. -/
theorem exists_passage {l : Leaf} (hf : (Task.input (key :: p) v).Fits s.top)
    (hu : s.top.session.finished = false) (hl : s.top.part? (key :: p) = some (.leaf l)) :
    ∃ x s', s.top.Passes (key :: p) v s.top.session.state x ∧
      (Task.input (key :: p) v).Leads s (.input (key :: p) v :: x.asked.map .close)
        (x.exit.taken s.top.session).1 s' ∧
      s'.calls = s.calls ++ x.calls ∧ s'.events = s.events ++ (x.exit.taken s.top.session).2 ∧
      s'.top.session.state = x.state ∧ s'.top.Wired ∧
      (s'.top.session.finished = true ↔ x.exit = .ended) := by
  obtain ⟨o, hs, hy⟩ := step_spec hf
  obtain ⟨log, hstep⟩ := hy s.log
  rcases hs.passes hf.wired hl with ⟨exit, hx, htaken, hne, hopen⟩ | ⟨hres, hev, hclose⟩
  · refine ⟨_, { o.scene s with log := log }, hx, ?_, rfl, ?_, rfl, hs.wired hf, ?_⟩
    · rw [htaken]
      exact .last hstep
    · rw [htaken]
      rfl
    · exact iff_of_false (by simp [Outcome.scene, hopen, hu]) hne
  · -- The holder closes next, in the flow and the state that the leaf has left.
    rw [hres] at hstep
    let s₁ : Scene := { o.scene s with log := log }
    obtain ⟨x, s', hx, hleads, hcalls, hevents, hrest⟩ :=
      Task.exists_escalation (s := s₁) (hs.fits hf hres) (hs.unfinished hu hres)
    have htaken : x.exit.taken s₁.top.session = x.exit.taken s.top.session :=
      x.exit.taken_congr (hs.sameDesign.reception hs.frontEnd_eq _)
    rw [htaken] at hleads hevents
    refine ⟨_, s', hclose x (hx.of_sameDesign hs.sameDesign), .next hstep hleads, ?_, ?_, hrest⟩
    · rw [hcalls, ← List.append_assoc]
      rfl
    · rw [hevents]
      simp [s₁, Outcome.scene, hev]

/-- An input to a leaf that finishes makes the machine close those that are asked from the
    holder of the leaf on, in the state with the leaf's patch. -/
theorem exists_escalation_of_input {l : Leaf} {d : Decision} {state : Mapping}
    (hf : (Task.input (key :: p) v).Fits s.top)
    (hr : s.top.session.IsReceptive) (hu : s.top.session.finished = false)
    (hl : s.top.part? (key :: p) = some (.leaf l))
    (hd : l.decider.decision (some v) s.top.session.state = .ok d) (hfin : d.finishes = true)
    (hm : Merges s.top.session.state d.patch (.ok ()) state) : ∃ x s',
      s.top.Escalates p state x ∧
      (Task.input (key :: p) v).Leads s (.input (key :: p) v :: x.asked.map .close)
        x.exit.result s' ∧
      s'.calls = s.calls ++ ⟨l.name, l.decider.label, some v, s.top.session.state⟩ :: x.calls ∧
      s'.events = s.events ++ x.exit.events ∧ s'.top.session.state = x.state ∧ s'.top.Wired ∧
      (s'.top.session.finished = true ↔ x.exit = .ended) := by
  obtain ⟨x, s', hx, hrest⟩ := exists_passage hf hu hl
  rw [x.exit.taken_eq hr] at hrest
  obtain ⟨m, keys, hholder, -⟩ := exists_holder (Option.isSome_of_mem hl)
  obtain ⟨y, hy⟩ := exists_escalates hholder state
  obtain rfl := hx.unique (.closed hl hd hm hfin hy)
  exact ⟨y, s', hy, hrest⟩

end Task

end Parley

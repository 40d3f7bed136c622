import Parley.Proofs.Flow.Run

/-!
# The traversal is determined

What is told and asked in a step is determined, and so is what comes of a decision with
its patch (`Settles`). All else in a step follows from these and from the part that the
task is about, so a flow and a task admit one step only (`Task.Step.unique`), and there is
one run of each length. A run that has not been cut short is also the run that is allowed
more tasks (`Task.Runs.of_le`), and so the only one that has not been cut short
(`Task.Runs.unique`).
-/

namespace Parley

open Element

variable {m : Manager} {keys : List String} {l : Leaf} {e : Element} {t : Task} {o o' : Outcome}
  {a p : Address} {key : String} {v target : Value}

/-! ### Reports -/

theorem Shows.unique {x : Option Emitter} {r r' : Except Fault Unit} {shown shown' : List Event}
    (h : Shows m x r shown) (h' : Shows m x r' shown') : (r, shown) = (r', shown') := by
  cases h <;> cases h' <;> simp_all

theorem Asks.unique {x : Emitter} {r r' : Except Fault Unit} {asked asked' : List Event}
    {awaiting awaiting' : Bool} (h : Asks m x r asked awaiting)
    (h' : Asks m x r' asked' awaiting') : (r, asked, awaiting) = (r', asked', awaiting') := by
  cases h <;> cases h' <;> simp_all

theorem Merges.unique {state s s' : Mapping} {patch : Value} {r r' : Except Fault Unit}
    (h : Merges state patch r s) (h' : Merges state patch r' s') : (r, s) = (r', s') := by
  cases h <;> cases h' <;> simp_all

/-- What comes of a decision and its patch: a fault of either, or the decision; and the
    shared state then. -/
inductive Settles (state : Mapping) (decided : Except Fault Decision) :
    Except Fault Decision → Mapping → Prop
  | undecided {cause : Fault} : decided = .error cause → Settles state decided (.error cause) state
  | unmerged {d : Decision} {cause : Fault} {state' : Mapping} : decided = .ok d →
      Merges state d.patch (.error cause) state' → Settles state decided (.error cause) state'
  | merged {d : Decision} {state' : Mapping} : decided = .ok d →
      Merges state d.patch (.ok ()) state' → Settles state decided (.ok d) state'

theorem Settles.unique {state s s' : Mapping} {decided r r' : Except Fault Decision}
    (h : Settles state decided r s) (h' : Settles state decided r' s') : (r, s) = (r', s') := by
  cases h with
  | undecided hd =>
    cases h' with
    | undecided hd' =>
      cases hd.symm.trans hd'
      rfl
    | unmerged hd' | merged hd' => cases hd.symm.trans hd'
  | unmerged hd hg =>
    cases h' with
    | undecided hd' => cases hd.symm.trans hd'
    | unmerged hd' hg' =>
      cases hd.symm.trans hd'
      cases hg.unique hg'
      rfl
    | merged hd' hg' =>
      cases hd.symm.trans hd'
      cases hg.unique hg'
  | merged hd hg =>
    cases h' with
    | undecided hd' => cases hd.symm.trans hd'
    | unmerged hd' hg' =>
      cases hd.symm.trans hd'
      cases hg.unique hg'
    | merged hd' hg' =>
      cases hd.symm.trans hd'
      cases hg.unique hg'
      rfl

/-! ### Steps of each kind of part -/

/-- What an input of a leaf comes to once its decision has been settled. -/
def Leaf.replied (l : Leaf) (e : Element) (key : String) (p : Address) (v : Value)
    (state : Mapping) : Except Fault Decision → Outcome
  | .error cause => ⟨.error cause, e.setState state, [],
      [⟨l.name, l.decider.label, some v, e.session.state⟩]⟩
  | .ok d => ⟨if d.next.isWritable then .ok (some (d.task p)) else .error (.misuse .digits),
      (e.setState state).setStatus (key :: p) .resolved, [],
      [⟨l.name, l.decider.label, some v, e.session.state⟩]⟩

/-- What the closing of a manager comes to once its decision has been settled. -/
def Manager.closed (m : Manager) (e : Element) (state : Mapping) :
    Address → Except Fault Decision → Outcome
  | _, .error cause => ⟨.error cause, e.setState state, [], m.consultations e.session.state⟩
  | key :: p, .ok d =>
    if d.next.isWritable then
      ⟨.ok (some (d.task p)), (e.setState state).setCursor (key :: p) m.root, [],
        m.consultations e.session.state⟩
    else ⟨.error (.misuse .digits), e.setState state, [], m.consultations e.session.state⟩
  | [], .ok d =>
    if d.finishes then
      match e.session.reception .ended with
      | .ok () => ⟨.ok none, (e.setState state).setFinished, [.ended],
          m.consultations e.session.state⟩
      | .error cause => ⟨.error cause, (e.setState state).setFinished, [],
          m.consultations e.session.state⟩
    else if d.next.isWritable then
      ⟨.error (.configuration (.routedOutside m.name d.next.plain)), e.setState state, [],
        m.consultations e.session.state⟩
    else ⟨.error (.misuse .digits), e.setState state, [], m.consultations e.session.state⟩

namespace Task.Step

/-- A task is about a part of the flow. -/
theorem exists_element (h : t.Step e o) : ∃ x, e.part? t.element = some x := by
  cases h <;> exact ⟨_, ‹_›⟩

/-- A leaf that is executed shows its output. If that does not fail it asks or passes on. -/
theorem execute_leaf (h : (Task.execute a).Step e o) (hl : e.part? a = some (.leaf l)) :
    ∃ r shown, Shows e.session l.output r shown ∧ match r, l.expectation with
      | .error cause, _ => o = ⟨.error cause, e.setStatus a .executing, shown, []⟩
      | .ok (), none => o = ⟨.ok (some (.input a .null)), e.setStatus a .executing, shown, []⟩
      | .ok (), some question => ∃ r asked awaiting, Asks e.session question r asked awaiting ∧
          o = ⟨r.map fun _ => none, (e.setStatus a .awaitingInput).setAwaiting awaiting,
            shown ++ asked, []⟩ := by
  cases h with
  | unshown hl' hs =>
    cases hl.symm.trans hl'
    exact ⟨_, _, hs, rfl⟩
  | passed hl' hs hq =>
    cases hl.symm.trans hl'
    refine ⟨_, _, hs, ?_⟩
    rw [hq]
  | asked hl' hs hq ha =>
    cases hl.symm.trans hl'
    refine ⟨_, _, hs, ?_⟩
    rw [hq]
    exact ⟨_, _, _, ha, rfl⟩
  | entered hm | overrun hm => cases hl.symm.trans hm

/-- A manager that is executed refuses at the end of the session, and goes to its cursor
    before. -/
theorem execute_manager (h : (Task.execute a).Step e o)
    (hm : e.part? a = some (.manager m keys)) :
    (a = [] ∧ m.finished = true) ∧ o = ⟨.error (.protocol (.alreadyEnded m.name)), e, [], []⟩ ∨
      (a = [] → m.finished = false) ∧ ∃ key, m.cursor = some key ∧
        o = ⟨.ok (some (.execute (key :: a))), e, [], []⟩ := by
  cases h with
  | unshown hl | passed hl | asked hl => cases hm.symm.trans hl
  | entered hm' hc hf =>
    cases hm.symm.trans hm'
    exact .inr ⟨hf, _, hc, rfl⟩
  | overrun hm' hf =>
    cases hm.symm.trans hm'
    exact .inl ⟨⟨rfl, hf⟩, rfl⟩

theorem input_leaf (h : (Task.input (key :: p) v).Step e o)
    (hl : e.part? (key :: p) = some (.leaf l)) : ∃ r state,
    Settles e.session.state (l.decider.decision (some v) e.session.state) r state ∧
      o = l.replied e key p v state r := by
  cases h with
  | undecided hl' hd =>
    cases hl.symm.trans hl'
    refine ⟨_, _, .undecided hd, ?_⟩
    rw [Leaf.replied, setState_self]
  | unmerged hl' hd hg =>
    cases hl.symm.trans hl'
    exact ⟨_, _, .unmerged hd hg, rfl⟩
  | unnamed hl' hd hg hw | decided hl' hd hg hw =>
    cases hl.symm.trans hl'
    refine ⟨_, _, .merged hd hg, ?_⟩
    rw [Leaf.replied, hw]
    rfl
  | handed hm => cases hl.symm.trans hm

/-- A manager below the top hands an input to the child at its cursor. -/
theorem input_manager (h : (Task.input (key :: p) v).Step e o)
    (hm : e.part? (key :: p) = some (.manager m keys)) : ∃ k, m.cursor = some k ∧
      o = ⟨.ok (some (.input (k :: key :: p) v)), e, [], []⟩ := by
  cases h with
  | undecided hl | unmerged hl | unnamed hl | decided hl => cases hm.symm.trans hl
  | handed hm' hc =>
    cases hm.symm.trans hm'
    exact ⟨_, hc, rfl⟩

/-- Only a manager closes. -/
theorem close_manager (h : (Task.close a).Step e o) : ∃ m keys r state,
    e.part? a = some (.manager m keys) ∧
      Settles e.session.state (m.decision e.session.state) r state ∧ o = m.closed e state a r := by
  cases h with
  | closeUndecided hm hd =>
    refine ⟨_, _, _, _, hm, .undecided hd, ?_⟩
    rw [Manager.closed, setState_self]
  | closeUnmerged hm hd hg =>
    refine ⟨_, _, _, _, hm, .unmerged hd hg, ?_⟩
    rw [Manager.closed]
  | @closeUnnamed a _ _ _ _ hm hd hg hw =>
    refine ⟨_, _, _, _, hm, .merged hd hg, ?_⟩
    cases a <;> simp [Manager.closed, hw, Decision.finishes_of_not_isWritable hw]
  | closed hm hd hg hw =>
    refine ⟨_, _, _, _, hm, .merged hd hg, ?_⟩
    rw [Manager.closed, if_pos hw]
  | ended hm hd hg hf hr | endRefused hm hd hg hf hr =>
    refine ⟨_, _, _, _, hm, .merged hd hg, ?_⟩
    simp only [Manager.closed, hf, hr, if_true]
  | routedOutside hm hd hg hf hw =>
    refine ⟨_, _, _, _, hm, .merged hd hg, ?_⟩
    simp [Manager.closed, hf, hw]

/-! ### Steps -/

theorem unique_execute (h : (Task.execute a).Step e o) (h' : (Task.execute a).Step e o') :
    o = o' := by
  obtain ⟨l | ⟨m, keys⟩, hx⟩ := h.exists_element
  · obtain ⟨r, shown, hs, ho⟩ := h.execute_leaf hx
    obtain ⟨r', shown', hs', ho'⟩ := h'.execute_leaf hx
    cases hs.unique hs'
    cases r with
    | error cause => exact ho.trans ho'.symm
    | ok =>
      cases hq : l.expectation with
      | none =>
        rw [hq] at ho ho'
        exact ho.trans ho'.symm
      | some question =>
        rw [hq] at ho ho'
        obtain ⟨r, asked, awaiting, ha, rfl⟩ := ho
        obtain ⟨r', asked', awaiting', ha', rfl⟩ := ho'
        cases ha.unique ha'
        rfl
  · rcases h.execute_manager hx with ⟨⟨ha, hf⟩, ho⟩ | ⟨hf, key, hc, ho⟩
    · rcases h'.execute_manager hx with ⟨-, ho'⟩ | ⟨hf', -⟩
      · exact ho.trans ho'.symm
      · cases hf.symm.trans (hf' ha)
    · rcases h'.execute_manager hx with ⟨⟨ha, hf'⟩, -⟩ | ⟨-, key', hc', ho'⟩
      · cases hf'.symm.trans (hf ha)
      · cases hc.symm.trans hc'
        exact ho.trans ho'.symm

/-- An input from outside is refused at the end of the session or if nothing has been
    asked, and goes to the cursor otherwise. -/
theorem unique_input_top (h : (Task.input [] v).Step e o) (h' : (Task.input [] v).Step e o') :
    o = o' := by
  cases h with
  | refusedEnded hm hf =>
    cases h' with
    | refusedEnded => rfl
    | refusedUnasked hm' hf' | accepted hm' hf' =>
      cases hm.symm.trans hm'
      cases hf.symm.trans hf'
  | refusedUnasked hm hf ha =>
    cases h' with
    | refusedEnded hm' hf' =>
      cases hm.symm.trans hm'
      cases hf.symm.trans hf'
    | refusedUnasked => rfl
    | accepted hm' hf' ha' =>
      cases hm.symm.trans hm'
      cases ha.symm.trans ha'
  | accepted hm hf ha hc =>
    cases h' with
    | refusedEnded hm' hf' =>
      cases hm.symm.trans hm'
      cases hf.symm.trans hf'
    | refusedUnasked hm' hf' ha' =>
      cases hm.symm.trans hm'
      cases ha.symm.trans ha'
    | accepted hm' hf' ha' hc' =>
      cases hm.symm.trans hm'
      cases hc.symm.trans hc'
      rfl

theorem unique_input (h : (Task.input a v).Step e o) (h' : (Task.input a v).Step e o') :
    o = o' := by
  cases a with
  | nil => exact unique_input_top h h'
  | cons key p =>
    obtain ⟨l | ⟨m, keys⟩, hx⟩ := h.exists_element
    · obtain ⟨r, state, hs, rfl⟩ := h.input_leaf hx
      obtain ⟨r', state', hs', rfl⟩ := h'.input_leaf hx
      cases hs.unique hs'
      rfl
    · obtain ⟨k, hc, rfl⟩ := h.input_manager hx
      obtain ⟨k', hc', rfl⟩ := h'.input_manager hx
      cases hc.symm.trans hc'
      rfl

theorem unique_move (h : (Task.move a target).Step e o) (h' : (Task.move a target).Step e o') :
    o = o' := by
  cases h with
  | strayed hm ht =>
    cases h' with
    | strayed hm' =>
      cases hm.symm.trans hm'
      rfl
    | moved hm' hk =>
      cases hm.symm.trans hm'
      exact absurd rfl (ht _ hk)
  | moved hm hk =>
    cases h' with
    | strayed hm' ht =>
      cases hm.symm.trans hm'
      exact absurd rfl (ht _ hk)
    | moved => rfl

theorem unique_close (h : (Task.close a).Step e o) (h' : (Task.close a).Step e o') : o = o' := by
  obtain ⟨m, keys, r, state, hm, hs, rfl⟩ := h.close_manager
  obtain ⟨m', keys', r', state', hm', hs', rfl⟩ := h'.close_manager
  cases hm.symm.trans hm'
  cases hs.unique hs'
  rfl

/-- A task has one outcome in a flow. -/
theorem unique (h : t.Step e o) (h' : t.Step e o') : o = o' := by
  cases t with
  | execute a => exact unique_execute h h'
  | input a v => exact unique_input h h'
  | move a target => exact unique_move h h'
  | close a => exact unique_close h h'

end Task.Step

/-- The machine does the step that the task has. -/
theorem Task.step_eq {s : Scene} (h : t.Fits s.top) (hs : t.Step s.top o) :
    ∃ log, t.step s = (o.result, { o.scene s with log := log }) := by
  obtain ⟨o', hs', hy⟩ := step_spec h
  obtain rfl := hs'.unique hs
  exact hy s.log

/-! ### Runs -/

namespace Task.Runs

variable {n k : Nat} {c c' : Course}

/-- There is one run of each length. -/
theorem unique_of_length (h : t.Runs n e c) (h' : t.Runs n e c') : c = c' := by
  induction h generalizing c' with
  | endless =>
    cases h'
    rfl
  | failed hs ho =>
    cases h' with
    | failed hs' ho' =>
      cases hs.unique hs'
      cases ho.symm.trans ho'
      rfl
    | settled hs' ho' | next hs' ho' =>
      cases hs.unique hs'
      cases ho.symm.trans ho'
  | settled hs ho =>
    cases h' with
    | settled hs' =>
      cases hs.unique hs'
      rfl
    | failed hs' ho' | next hs' ho' =>
      cases hs.unique hs'
      cases ho.symm.trans ho'
  | next hs ho _ ih =>
    cases h' with
    | failed hs' ho' | settled hs' ho' =>
      cases hs.unique hs'
      cases ho.symm.trans ho'
    | next hs' ho' hr' =>
      cases hs.unique hs'
      cases ho.symm.trans ho'
      rw [ih hr']

/-- A run that has not been cut short does not change if more tasks are allowed. -/
theorem of_le (h : t.Runs n e c) (hc : c.result ≠ .error .endless) (hk : n ≤ k) :
    t.Runs k e c := by
  induction h generalizing k with
  | endless => exact absurd rfl hc
  | failed hs ho =>
    obtain ⟨k, rfl⟩ := Nat.exists_eq_add_of_le' hk
    exact .failed hs ho
  | settled hs ho =>
    obtain ⟨k, rfl⟩ := Nat.exists_eq_add_of_le' hk
    exact .settled hs ho
  | next hs ho _ ih =>
    obtain ⟨k, rfl⟩ := Nat.exists_eq_add_of_le' hk
    exact .next hs ho (ih hc (Nat.le_add_left _ _))

/-- There is one run that has not been cut short. -/
theorem unique (h : t.Runs n e c) (h' : t.Runs k e c') (hc : c.result ≠ .error .endless)
    (hc' : c'.result ≠ .error .endless) : c = c' := by
  rcases Nat.le_total n k with hnk | hkn
  · exact (h.of_le hc hnk).unique_of_length h'
  · exact h.unique_of_length (h'.of_le hc' hkn)

/-- If a run has been cut short, so has one that is allowed fewer tasks. -/
theorem endless_of_le (h : t.Runs n e c) (hc : c.result = .error .endless) (hk : k ≤ n)
    (h' : t.Runs k e c') : c'.result = .error .endless := by
  by_contra hc'
  rw [← h.unique_of_length (h'.of_le hc' hk)] at hc'
  exact hc' hc

end Task.Runs

end Parley

import Parley.Proofs.Flow.Run

/-!
# Where faults come from

A fault that ends a turn is one that a handler of the flow or its front end has
raised (`Element.Raises`), or one that the traversal finds itself (`Task.Finds`):
an unusable reply or patch, a target that is not there or cannot be written, a
front end that is missing, or a task out of turn. There is no other for a step that fails
(`Task.Step.origin`), and so for a run, which fails at one of its tasks unless it has
only been cut short (`Task.Runs.exists_failed`).

In particular the traversal never finds an element that is not attached, nor a
manager without a current child.
-/

namespace Parley

open Element

variable {e : Element} {t : Task} {o : Outcome} {cause : Fault} {m : Manager}

/-- A handler of the flow, or its front end, can raise the fault. -/
inductive Element.Raises (e : Element) (cause : Fault) : Prop
  | leafDecider {a : Address} {l : Leaf} {input : Option Value} {state : Mapping} :
      e.part? a = some (.leaf l) → l.decider.reply input state = .error cause → Raises e cause
  | managerDecider {a : Address} {m : Manager} {keys : List String} {d : Decider}
      {state : Mapping} :
      e.part? a = some (.manager m keys) → m.decider = some d →
      d.reply none state = .error cause → Raises e cause
  | output {a : Address} {l : Leaf} {x : Emitter} {state : Mapping} :
      e.part? a = some (.leaf l) → l.output = some x →
      x.transform state x.payload = .error cause → Raises e cause
  | expectation {a : Address} {l : Leaf} {x : Emitter} {state : Mapping} :
      e.part? a = some (.leaf l) → l.expectation = some x →
      x.transform state x.payload = .error cause → Raises e cause
  | frontEnd {frontEnd : FrontEnd} {event : Event} :
      e.session.frontEnd = some frontEnd → frontEnd.refusal event = some cause → Raises e cause

/-- The faults that the traversal finds itself when it performs a task. -/
inductive Task.Finds (e : Element) : Task → Fault → Prop
  | noFrontEnd {t : Task} : e.session.frontEnd = none →
      Finds e t (.configuration (.noFrontEnd e.session.name))
  | unsupported {t : Task} (reply : Value) :
      Finds e t (Decision.unsupported reply)
  /-- A patch that cannot be merged. -/
  | unmerged {t : Task} (cause : Misuse) : Finds e t (.misuse cause)
  /-- A target that cannot be written. -/
  | unnamed {t : Task} : Finds e t (.misuse .digits)
  | strayed {a : Address} {m : Manager} {keys : List String} {target : Value} :
      e.part? a = some (.manager m keys) → (∀ key ∈ keys, target ≠ .text key) →
      Finds e (.move a target) (m.stray target)
  | overrun {m : Manager} {keys : List String} : e.part? [] = some (.manager m keys) →
      m.finished = true → Finds e (.execute []) (.protocol (.alreadyEnded m.name))
  | inputAfterEnd {v : Value} : Finds e (.input [] v) (.protocol .inputAfterEnd)
  | inputUnexpected {v : Value} : Finds e (.input [] v) (.protocol .inputUnexpected)
  | routedOutside {m : Manager} {keys : List String} {d : Decision} :
      e.part? [] = some (.manager m keys) → m.decision e.session.state = .ok d →
      d.finishes = false →
      Finds e (.close []) (.configuration (.routedOutside m.name d.next.plain))

/-! ### Faults of handlers -/

theorem Decision.unsupported_cases (v : Value) :
    v.isWritable = true ∧ unsupported v = .configuration (.unsupportedReply v.quoted) ∨
      v.isWritable = false ∧ unsupported v = .misuse .digits := by
  unfold unsupported
  cases hw : v.isWritable with
  | true => exact .inl ⟨rfl, by rw [Value.literal_of_isWritable hw]⟩
  | false => exact .inr ⟨rfl, by rw [Value.literal_of_not_isWritable hw]⟩

/-- A value that stands for no decision is an unsupported reply. -/
theorem Decision.ofValue_error {v : Value} (h : Decision.ofValue v = .error cause) :
    cause = Decision.unsupported v := by
  unfold ofValue at h
  split at h
  · simp at h
  · split at h <;> simp_all
  · simp_all

/-- A decider fails itself, or its reply is unsupported. -/
theorem Decider.decision_error {d : Decider} {input : Option Value} {state : Mapping}
    (h : d.decision input state = .error cause) : d.reply input state = .error cause ∨
      ∃ reply, cause = Decision.unsupported reply := by
  unfold decision at h
  rcases hr : d.reply input state with cause' | reply
  · rw [hr] at h
    cases h
    exact .inl rfl
  · rw [hr] at h
    rcases reply with _ | d | v
    · simp [Except.bind, Reply.decision?] at h
    · simp [Except.bind, Reply.decision?] at h
    · exact .inr ⟨v, Decision.ofValue_error h⟩

/-- A front end refuses an event, or there is none. -/
theorem Manager.reception_error {event : Event} (h : m.reception event = .error cause) :
    (m.frontEnd = none ∧ cause = .configuration (.noFrontEnd m.name)) ∨
      ∃ frontEnd, m.frontEnd = some frontEnd ∧ frontEnd.refusal event = some cause := by
  unfold reception at h
  rcases hf : m.frontEnd with _ | frontEnd
  · simp_all
  · rw [hf] at h
    rcases hr : frontEnd.refusal event with _ | cause' <;> simp_all

/-- An emitter fails in its transform, or its event is not taken. -/
theorem Shows.of_error {x : Option Emitter} {shown : List Event}
    (h : Shows m x (.error cause) shown) : ∃ y, x = some y ∧
      (y.transform m.state y.payload = .error cause ∨
        ∃ p, y.transform m.state y.payload = .ok (some p) ∧
          m.reception (.output p) = .error cause) := by
  cases h with
  | failed ht => exact ⟨_, rfl, .inl ht⟩
  | refused ht hr => exact ⟨_, rfl, .inr ⟨_, ht, hr⟩⟩

theorem Asks.of_error {x : Emitter} {asked : List Event} {awaiting : Bool}
    (h : Asks m x (.error cause) asked awaiting) : x.transform m.state x.payload = .error cause ∨
      ∃ p, x.transform m.state x.payload = .ok (some p) ∧
        m.reception (.expectation p) = .error cause := by
  cases h with
  | failed ht => exact .inl ht
  | refused ht hr => exact .inr ⟨_, ht, hr⟩

/-- A merge fails because of the patch, or of the keys that it brings. -/
theorem Merges.of_error {state state' : Mapping} {patch : Value}
    (h : Merges state patch (.error cause) state') : ∃ misuse, cause = .misuse misuse := by
  cases h <;> exact ⟨_, rfl⟩

/-! ### Steps -/

namespace Task

/-- The front end refuses an event, or the traversal finds none. -/
theorem raises_or_finds_of_reception {event : Event}
    (h : e.session.reception event = .error cause) : e.Raises cause ∨ t.Finds e cause := by
  rcases Manager.reception_error h with ⟨hf, rfl⟩ | ⟨frontEnd, hf, hr⟩
  · exact .inr (.noFrontEnd hf)
  · exact .inl (.frontEnd hf hr)

/-- A manager's decider fails itself, or its reply is unsupported. -/
theorem raises_of_decision {a : Address} {keys : List String} {state : Mapping}
    (hm : e.part? a = some (.manager m keys)) (h : m.decision state = .error cause) :
    e.Raises cause ∨ ∃ reply, cause = Decision.unsupported reply := by
  unfold Manager.decision at h
  rcases hd : m.decider with _ | d
  · simp [hd] at h
  · rw [hd] at h
    exact (Decider.decision_error h).imp_left fun hr => .managerDecider hm hd hr

namespace Step

/-- A step fails with a fault that is raised by a handler or by the front end, or
    found by the traversal. -/
theorem origin (hs : t.Step e o) (ho : o.result = .error cause) :
    e.Raises cause ∨ t.Finds e cause := by
  cases hs with
  | unshown hl hshow =>
    cases ho
    obtain ⟨x, hx, ht | ⟨p, -, hr⟩⟩ := hshow.of_error
    · exact .inl (.output hl hx ht)
    · exact raises_or_finds_of_reception hr
  | @asked a l shown question r asked awaiting hl _ hq hask =>
    rcases r with cause' | _
    · cases ho
      rcases hask.of_error with ht | ⟨p, -, hr⟩
      · exact .inl (.expectation hl hq ht)
      · exact raises_or_finds_of_reception hr
    · cases ho
  | overrun hm hf =>
    cases ho
    exact .inr (.overrun hm hf)
  | undecided hl hd =>
    cases ho
    rcases Decider.decision_error hd with hr | ⟨reply, rfl⟩
    · exact .inl (.leafDecider hl hr)
    · exact .inr (.unsupported reply)
  | unmerged _ _ hg | closeUnmerged _ _ hg =>
    cases ho
    obtain ⟨misuse, rfl⟩ := hg.of_error
    exact .inr (.unmerged misuse)
  | unnamed | closeUnnamed =>
    cases ho
    exact .inr .unnamed
  | refusedEnded =>
    cases ho
    exact .inr .inputAfterEnd
  | refusedUnasked =>
    cases ho
    exact .inr .inputUnexpected
  | strayed hm ht =>
    cases ho
    exact .inr (.strayed hm ht)
  | closeUndecided hm hd =>
    cases ho
    rcases raises_of_decision hm hd with hr | ⟨reply, rfl⟩
    · exact .inl hr
    · exact .inr (.unsupported reply)
  | endRefused _ _ _ _ hr =>
    cases ho
    exact raises_or_finds_of_reception hr
  | routedOutside hm hd _ hf =>
    cases ho
    exact .inr (.routedOutside hm hd hf)
  | _ => cases ho

end Step

end Task

end Parley

import Parley.Proofs.Flow.Failure
import Parley.Proofs.Flow.Passage

/-!
# Replies

How the reply of a decider is handled: it is brought into the form of a decision, the patch
of the decision is merged, and the target is looked up in the manager that receives it
(`Task.Handles`).

* `Task.Receives.isHandled`: the machine does this by the task that consults the decider, and by
  the move that the decision asks for, if it asks for one;
* `Task.Handles.error_cases`: it fails as a fault of configuration, unless the decision holds
  a patch or a target that does not fit the use made of it, or the report of the fault would have
  to write what cannot be written (`Reply.Misfits`);
* `Reply.IsProper.not_misfits`: decisions with textual keys, and targets that can be keys and be
  written, fit.
-/

namespace Parley

open Element

/-- The reply cannot be carried out. Either it stands for no decision, and cannot be written in
    the report of that. Or its patch cannot be merged into the state, or its target cannot be
    written, or is to be looked up and cannot be a key. -/
inductive Reply.Misfits (reply : Reply) (state : Mapping) (nested : Bool) : Misuse → Prop
  | value {v : Value} {cause : Fault} : reply = .value v → reply.decision? = .error cause →
      v.isWritable = false → Misfits reply state nested .digits
  | patch {d : Decision} {state' : Mapping} {cause : Misuse} : reply.decision? = .ok d →
      Merges state d.patch (.error (.misuse cause)) state' → Misfits reply state nested cause
  | target {d : Decision} {state' : Mapping} : reply.decision? = .ok d →
      Merges state d.patch (.ok ()) state' → d.next.isWritable = false →
      Misfits reply state nested .digits
  | key {d : Decision} {state' : Mapping} : reply.decision? = .ok d →
      Merges state d.patch (.ok ()) state' → d.next.isWritable = true → d.next.isKey = false →
      nested = true → Misfits reply state nested .kind

/-- Only a value that stands for no decision is no decision. -/
theorem Reply.decision?_error {reply : Reply} {cause : Fault}
    (h : reply.decision? = .error cause) :
    ∃ v, reply = .value v ∧ cause = Decision.unsupported v := by
  cases reply with
  | nothing => cases h
  | decision d => cases h
  | value v => exact ⟨v, rfl, Decision.ofValue_error h⟩

theorem Decider.decision_eq {d : Decider} {input : Option Value} {state : Mapping} {reply : Reply}
    (h : d.reply input state = .ok reply) : d.decision input state = reply.decision? := by
  rw [decision, h]
  rfl

/-- The reply can be written, or need not be: then it stands for a decision that hands over
    textual keys, if any, and its target can be a key and can be written. -/
structure Reply.IsProper (reply : Reply) : Prop where
  value : ∀ v cause, reply = .value v → reply.decision? = .error cause → v.isWritable = true
  patch : ∀ d, reply.decision? = .ok d → d.IsTextual
  target : ∀ d, reply.decision? = .ok d → d.next.isWritable = true
  key : ∀ d, reply.decision? = .ok d → d.next.isKey = true

/-- A proper reply fits a state with textual keys. -/
theorem Reply.IsProper.not_misfits {reply : Reply} {state : Mapping} {nested : Bool} {c : Misuse}
    (h : reply.IsProper) (hs : state.IsTextual) : ¬reply.Misfits state nested c := by
  intro hm
  cases hm with
  | value hv he hw => cases (h.value _ _ hv he).symm.trans hw
  | patch hd hg => cases (hg.of_isTextual hs (h.patch _ hd)).1
  | target hd _ hw => cases (h.target _ hd).symm.trans hw
  | key hd _ _ hk => cases (h.key _ hd).symm.trans hk

namespace Task

/-- The decider that the task consults returns the reply. -/
inductive Receives (e : Element) : Task → Reply → Prop
  | leaf {a : Address} {l : Leaf} {v : Value} {reply : Reply} : e.part? a = some (.leaf l) →
      l.decider.reply (some v) e.session.state = .ok reply → Receives e (.input a v) reply
  | manager {a : Address} {m : Manager} {keys : List String} {d : Decider} {reply : Reply} :
      e.part? a = some (.manager m keys) → m.decider = some d →
      d.reply none e.session.state = .ok reply → Receives e (.close a) reply

/-- The manager that receives what is decided at a task, if it is not the outermost one that
    decides. -/
def holder? (t : Task) : Option Address :=
  match t.element with
  | [] => none
  | _ :: p => some p

/-- What the handling of a reply comes to: a fault, or the task that goes on from there. -/
inductive Handles (e : Element) (t : Task) (reply : Reply) : Except Fault (Option Task) → Prop
  | unsupported {v : Value} : reply = .value v →
      reply.decision? = .error (Decision.unsupported v) →
      Handles e t reply (.error (Decision.unsupported v))
  | unmerged {d : Decision} {state' : Mapping} {cause : Misuse} : reply.decision? = .ok d →
      Merges e.session.state d.patch (.error (.misuse cause)) state' →
      Handles e t reply (.error (.misuse cause))
  | unnamed {d : Decision} {state' : Mapping} : reply.decision? = .ok d →
      Merges e.session.state d.patch (.ok ()) state' → d.next.isWritable = false →
      Handles e t reply (.error (.misuse .digits))
  | moved {d : Decision} {state' : Mapping} {p : Address} {m : Manager} {keys : List String}
      {key : String} : reply.decision? = .ok d → Merges e.session.state d.patch (.ok ()) state' →
      t.holder? = some p → e.part? p = some (.manager m keys) → key ∈ keys →
      d.next = .text key → Handles e t reply (.ok (some (.execute p)))
  | strayed {d : Decision} {state' : Mapping} {p : Address} {m : Manager} {keys : List String} :
      reply.decision? = .ok d → Merges e.session.state d.patch (.ok ()) state' →
      t.holder? = some p → e.part? p = some (.manager m keys) → d.finishes = false →
      d.next.isWritable = true → (∀ key ∈ keys, d.next ≠ .text key) →
      Handles e t reply (.error (m.stray d.next))
  | closed {d : Decision} {state' : Mapping} {p : Address} : reply.decision? = .ok d →
      Merges e.session.state d.patch (.ok ()) state' → t.holder? = some p → d.finishes = true →
      Handles e t reply (.ok (some (.close p)))
  | outside {d : Decision} {state' : Mapping} {m : Manager} {keys : List String} :
      reply.decision? = .ok d → Merges e.session.state d.patch (.ok ()) state' →
      t.holder? = none → e.part? [] = some (.manager m keys) → d.finishes = false →
      d.next.isWritable = true →
      Handles e t reply (.error (.configuration (.routedOutside m.name d.next.plain)))
  /-- The session is over, and the front end is told. -/
  | ended {d : Decision} {state' : Mapping} : reply.decision? = .ok d →
      Merges e.session.state d.patch (.ok ()) state' → t.holder? = none → d.finishes = true →
      Handles e t reply ((e.session.reception .ended).map fun _ => none)

variable {e : Element} {t : Task} {reply : Reply} {r : Except Fault (Option Task)} {cause : Fault}
  {s : Scene} {p : Address} {m : Manager} {keys : List String} {target : Value}

namespace Handles

/-- A reply that is handled goes on without a move, or fails as a fault of configuration, or
    because of what does not fit in it, or because the front end refuses to be told of the
    end. -/
theorem error_cases (h : t.Handles e reply (.error cause)) :
    (∃ c, cause = .configuration c) ∨
      (∃ c, cause = .misuse c ∧ reply.Misfits e.session.state t.holder?.isSome c) ∨
      e.session.reception .ended = .error cause := by
  generalize hr : (Except.error cause : Except Fault (Option Task)) = r at h
  cases h with
  | @unsupported v hv he =>
    cases hr
    rcases Decision.unsupported_cases v with ⟨-, hu⟩ | ⟨hw, hu⟩
    · exact .inl ⟨_, hu⟩
    · exact .inr (.inl ⟨_, hu, .value hv he hw⟩)
  | outside =>
    cases hr
    exact .inl ⟨_, rfl⟩
  | unmerged hd hg =>
    cases hr
    exact .inr (.inl ⟨_, rfl, .patch hd hg⟩)
  | unnamed hd hg hw =>
    cases hr
    exact .inr (.inl ⟨_, rfl, .target hd hg hw⟩)
  | @strayed d _ _ m _ hd hg hp _ _ hw =>
    cases hr
    cases hk : d.next.isKey with
    | true => exact .inl ⟨_, by simp [Manager.stray, hk, hw]; rfl⟩
    | false =>
      have hstray : m.stray d.next = .misuse .kind := by simp [Manager.stray, hk]
      exact .inr (.inl ⟨_, hstray, .key hd hg hw hk (by rw [hp]; rfl)⟩)
  | moved | closed => cases hr
  | ended =>
    cases hrec : e.session.reception .ended with
    | ok => simp [hrec, Except.map] at hr
    | error cause' =>
      rw [hrec] at hr
      cases hr
      exact .inr (.inr rfl)

/-- What does not fit is a misuse. -/
theorem eq_of_misfits {c : Misuse} (h : t.Handles e reply r)
    (hm : reply.Misfits e.session.state t.holder?.isSome c) : r = .error (.misuse c) := by
  -- Only one of the ways of handling a reply goes with each misfit.
  cases hm with
  | @value v _ hv he hw =>
    cases h with
    | @unsupported v' hv' =>
      cases hv.symm.trans hv'
      rcases Decision.unsupported_cases v with ⟨hw', -⟩ | ⟨-, hu⟩
      · cases hw.symm.trans hw'
      · rw [hu]
    | unmerged hd | unnamed hd | moved hd | strayed hd | closed hd | outside hd | ended hd =>
      cases he.symm.trans hd
  | @patch d' state' _ hd' hg' =>
    cases h with
    | unsupported _ hd => cases hd'.symm.trans hd
    | unmerged hd hg =>
      cases hd'.symm.trans hd
      cases (Prod.mk.inj (hg.unique hg')).1
      rfl
    | unnamed hd hg | moved hd hg | strayed hd hg | closed hd hg | outside hd hg | ended hd hg =>
      cases hd'.symm.trans hd
      cases (Prod.mk.inj (hg.unique hg')).1
  | @target d' state' hd' hg' hw =>
    cases h with
    | unsupported _ hd => cases hd'.symm.trans hd
    | unmerged hd hg =>
      cases hd'.symm.trans hd
      cases (Prod.mk.inj (hg.unique hg')).1
    | unnamed => rfl
    | moved hd _ _ _ _ ht =>
      cases hd'.symm.trans hd
      rw [ht, Value.isWritable_text] at hw
      cases hw
    | strayed hd _ _ _ _ hw' | outside hd _ _ _ _ hw' =>
      cases hd'.symm.trans hd
      cases hw.symm.trans hw'
    | closed hd _ _ hf | ended hd _ _ hf =>
      cases hd'.symm.trans hd
      cases hw.symm.trans (Decision.isWritable_of_finishes hf)
  | @key d' state' hd' hg' hw hk hn =>
    cases h with
    | unsupported _ hd => cases hd'.symm.trans hd
    | unmerged hd hg =>
      cases hd'.symm.trans hd
      cases (Prod.mk.inj (hg.unique hg')).1
    | unnamed hd _ hw' =>
      cases hd'.symm.trans hd
      cases hw.symm.trans hw'
    | moved hd _ _ _ _ ht =>
      cases hd'.symm.trans hd
      simp [ht, Value.isKey, Value.keyForm?] at hk
    | strayed hd =>
      cases hd'.symm.trans hd
      simp [Manager.stray, hk]
    | closed hd _ _ hf =>
      cases hd'.symm.trans hd
      have hnull : d'.next = .null := by
        unfold Decision.finishes Value.isNull at hf
        split at hf <;> simp_all
      simp [hnull, Value.isKey, Value.keyForm?] at hk
    | outside _ _ hp | ended _ _ hp => simp [hp] at hn

end Handles

/-! ### The machine handles it -/

/-- A manager that is to move does so, or strays. -/
theorem exists_step_of_move (hf : (Task.move p target).Fits s.top)
    (hm : s.top.part? p = some (.manager m keys)) :
    ∃ r s', (Task.move p target).step s = (r, s') ∧
      ((∃ key ∈ keys, target = .text key ∧ r = .ok (some (.execute p))) ∨
        (∀ key ∈ keys, target ≠ .text key) ∧ r = .error (m.stray target)) := by
  by_cases ht : ∃ key ∈ keys, target = .text key
  · obtain ⟨key, hk, rfl⟩ := ht
    obtain ⟨log, hstep⟩ := step_eq hf (.moved hm hk)
    exact ⟨_, _, hstep, .inl ⟨key, hk, rfl, rfl⟩⟩
  · have ht' : ∀ key ∈ keys, target ≠ .text key := fun key hk h => ht ⟨key, hk, h⟩
    obtain ⟨log, hstep⟩ := step_eq hf (.strayed hm ht')
    exact ⟨_, _, hstep, .inr ⟨ht', rfl⟩⟩

/-- From the scene on the machine handles the reply, by the task and a move at the most. -/
def IsHandled (t : Task) (s : Scene) (reply : Reply) : Prop :=
  ∃ ts r s', t.Leads s ts r s' ∧ t.Handles s.top reply r ∧
    ∀ t' ∈ ts, t' = t ∨ ∃ p target, t' = .move p target

namespace Step

variable {o : Outcome} {d : Decision}

/-- A step that leads to no move handles the reply. -/
theorem isHandled (hs : t.Step s.top o) (hf : t.Fits s.top)
    (hh : t.Handles s.top reply o.result) : t.IsHandled s reply := by
  obtain ⟨log, hstep⟩ := step_eq hf hs
  exact ⟨[t], _, _, .last hstep, hh, by simp⟩

/-- What is decided for the manager above is handled by it. -/
theorem isHandled_of_decision {state : Mapping} (hs : t.Step s.top o) (hf : t.Fits s.top)
    (hd : reply.decision? = .ok d) (hg : Merges s.top.session.state d.patch (.ok ()) state)
    (hw : d.next.isWritable = true) (hp : t.holder? = some p)
    (ho : o.result = .ok (some (d.task p))) : t.IsHandled s reply := by
  obtain ⟨log, hstep⟩ := step_eq hf hs
  rw [ho] at hstep
  cases hfin : d.finishes with
  | true =>
    rw [Decision.task_of_finishes hfin] at hstep
    exact ⟨[t], _, _, .last hstep, .closed hd hg hp hfin, by simp⟩
  | false =>
    rw [Decision.task_of_unfinished hfin] at hstep ho
    have hfits : (Task.move p d.next).Fits { o.scene s with log := log }.top := hs.fits hf ho
    obtain ⟨m, keys, hm⟩ := hfits.2.2
    obtain ⟨m', hm', hname, -⟩ := hs.sameDesign.exists_decision hm
    obtain ⟨r, s', hmove, ⟨key, hk, ht, rfl⟩ | ⟨ht, rfl⟩⟩ := exists_step_of_move hfits hm
    · exact ⟨_, _, s', .next hstep (.last hmove), .moved hd hg hp hm' hk ht, by simp⟩
    · refine ⟨_, _, s', .next hstep (.last hmove), ?_, by simp⟩
      exact Manager.stray_congr hname d.next ▸ .strayed hd hg hp hm' hfin hw ht

end Step

/-- The outermost manager handles a decision by the end of the session: nothing holds it. -/
theorem isHandled_of_outermost {d : Decision} {state : Mapping} (hf : (Task.close []).Fits s.top)
    (hm : s.top.part? [] = some (.manager m keys))
    (hdec : m.decision s.top.session.state = .ok d) (hd : reply.decision? = .ok d)
    (hg : Merges s.top.session.state d.patch (.ok ()) state) :
    (Task.close []).IsHandled s reply := by
  rcases d.target_cases with hfin | ⟨hfin, hw⟩ | hw
  · have hended := Handles.ended (e := s.top) (t := .close []) hd hg rfl hfin
    cases hrec : s.top.session.reception .ended with
    | ok =>
      rw [hrec] at hended
      exact (Step.ended hm hdec hg hfin hrec).isHandled hf hended
    | error cause =>
      rw [hrec] at hended
      exact (Step.endRefused hm hdec hg hfin hrec).isHandled hf hended
  · exact (Step.routedOutside hm hdec hg hfin hw).isHandled hf (.outside hd hg rfl hm hfin hw)
  · exact (Step.closeUnnamed hm hdec hg hw).isHandled hf (.unnamed hd hg hw)

/-- The machine handles a reply by the task at which it is received and a move at the most. -/
theorem Receives.isHandled (hr : t.Receives s.top reply) (hf : t.Fits s.top) :
    t.IsHandled s reply := by
  -- A reply is unsupported, or its patch cannot be merged, or it is reported to the holder.
  cases hr with
  | @leaf a l v _ hl hreply =>
    obtain ⟨key, p, rfl⟩ := hf.wired.exists_cons hl
    have hdec := Decider.decision_eq hreply
    obtain ⟨r, state, hs⟩ := exists_settles s.top.session.state reply.decision?
    cases hs with
    | undecided hd =>
      obtain ⟨v', hv, rfl⟩ := Reply.decision?_error hd
      exact (Step.undecided hl (hdec.trans hd)).isHandled hf (.unsupported hv hd)
    | unmerged hd hg =>
      obtain ⟨c, rfl⟩ := hg.of_error
      exact (Step.unmerged hl (hdec.trans hd) hg).isHandled hf (.unmerged hd hg)
    | @merged d _ hd hg =>
      cases hw : d.next.isWritable with
      | true =>
        exact (Step.decided hl (hdec.trans hd) hg hw).isHandled_of_decision hf hd hg hw rfl rfl
      | false => exact (Step.unnamed hl (hdec.trans hd) hg hw).isHandled hf (.unnamed hd hg hw)
  | @manager a m keys decider _ hm hdecider hreply =>
    have hdec : m.decision s.top.session.state = reply.decision? := by
      rw [Manager.decision, hdecider]
      exact Decider.decision_eq hreply
    obtain ⟨r, state, hs⟩ := exists_settles s.top.session.state reply.decision?
    cases hs with
    | undecided hd =>
      obtain ⟨v', hv, rfl⟩ := Reply.decision?_error hd
      exact (Step.closeUndecided hm (hdec.trans hd)).isHandled hf (.unsupported hv hd)
    | unmerged hd hg =>
      obtain ⟨c, rfl⟩ := hg.of_error
      exact (Step.closeUnmerged hm (hdec.trans hd) hg).isHandled hf (.unmerged hd hg)
    | @merged d _ hd hg =>
      -- There is no holder above the outermost manager.
      cases a with
      | nil => exact isHandled_of_outermost hf hm (hdec.trans hd) hd hg
      | cons key p =>
        cases hw : d.next.isWritable with
        | true =>
          exact (Step.closed hm (hdec.trans hd) hg hw).isHandled_of_decision hf hd hg hw rfl rfl
        | false =>
          exact (Step.closeUnnamed hm (hdec.trans hd) hg hw).isHandled hf (.unnamed hd hg hw)

end Task

end Parley

import Parley.Proofs.Flow.Entering
import Parley.Proofs.Flow.Escalation

/-!
# Decisions that lead astray

A leaf, or a manager whose traversal is over, may decide on a target that can be written but that
the manager above it does not hold (`Task.Strays`). Then the manager above is told to move there and
fails, in the flow that the decision has left (`Strays.exists_step`, `Runs.of_strays`).

What the decision has left is a matter of who has decided. A leaf moves no cursor
(`Step.cursorAt_of_input`), but a manager goes back to its root before it reports
(`Step.cursorAt_of_close`), and does not come back if the move fails. As the cursors decide the
active path (`IsAimed.activePath_eq`), the path is kept in the first case, and in the second one
only if the manager has been at its root before (`IsAimed.cursorAt_of_activePath_eq`).
-/

namespace Parley

open Element

/-- The cursor of a manager; a leaf has none. -/
def Part.cursor : Part → Option String
  | .leaf _ => none
  | .manager m _ => m.cursor

theorem Part.cursor_skeleton (p : Part) : p.skeleton.cursor = p.cursor := by
  cases p <;> rfl

/-- The cursor of the manager at an address, if there is one. -/
def Element.cursorAt (e : Element) (a : Address) : Option String :=
  (e.part? a).bind Part.cursor

/-- The decision that the task is about names a target that the manager above does not hold. It
    can be written, so that it is reported. -/
inductive Task.Strays (e : Element) : Task → Fault → Prop
  | leaf {p : Address} {key : String} {l : Leaf} {v : Value} {d : Decision} {state : Mapping}
      {m : Manager} {keys : List String} :
      e.part? (key :: p) = some (.leaf l) →
      l.decider.decision (some v) e.session.state = .ok d →
      Merges e.session.state d.patch (.ok ()) state → d.finishes = false →
      d.next.isWritable = true →
      e.part? p = some (.manager m keys) → (∀ k ∈ keys, d.next ≠ .text k) →
      Strays e (.input (key :: p) v) (m.stray d.next)
  | manager {p : Address} {key : String} {m : Manager} {keys : List String} {d : Decision}
      {state : Mapping} {holder : Manager} {keys' : List String} :
      e.part? (key :: p) = some (.manager m keys) → m.decision e.session.state = .ok d →
      Merges e.session.state d.patch (.ok ()) state → d.finishes = false →
      d.next.isWritable = true →
      e.part? p = some (.manager holder keys') → (∀ k ∈ keys', d.next ≠ .text k) →
      Strays e (.close (key :: p)) (holder.stray d.next)

variable {e e' : Element} {t : Task} {o : Outcome} {a b : Address} {key : String} {m : Manager}
  {keys : List String} {cause : Fault} {n : Nat} {c : Course}

namespace Element

/-! ### Cursors -/

theorem cursorAt_manager (hm : e.part? a = some (.manager m keys)) : e.cursorAt a = m.cursor := by
  rw [cursorAt, hm]
  rfl

theorem SameSkeleton.cursorAt_eq (h : SameSkeleton e e') : e.cursorAt = e'.cursorAt := by
  funext a
  have hcursor (x : Element) : x.cursorAt a = ((x.part? a).map Part.skeleton).bind Part.cursor := by
    rw [Option.bind_map, cursorAt]
    exact congrArg _ (funext fun p => p.cursor_skeleton.symm)
  rw [hcursor, hcursor, h a]

theorem cursorAt_setCursor (hm : e.part? a = some (.manager m keys)) :
    (e.setCursor a key).cursorAt b = if b = a then some key else e.cursorAt b := by
  rw [cursorAt, part?_setCursor]
  split
  · rw [hm]
    rfl
  · rfl

/-- An address is active if cursors point down to it. -/
theorem isActive_cons_iff : e.IsActive (key :: a) ↔ e.IsActive a ∧ e.cursorAt a = some key := by
  refine and_congr_right fun _ => ⟨?_, fun hc => ?_⟩
  · rintro ⟨m, keys, hm, hc⟩
    exact (cursorAt_manager hm).trans hc
  · obtain ⟨p, hp, hcur⟩ := Option.bind_eq_some_iff.1 hc
    cases p with
    | leaf l => cases hcur
    | manager m keys => exact ⟨m, keys, hp, hcur⟩

theorem isActive_of_cursorAt_eq (h : e'.cursorAt = e.cursorAt) : e'.IsActive a ↔ e.IsActive a := by
  induction a with
  | nil => exact iff_of_true isActive_nil isActive_nil
  | cons key a ih => rw [isActive_cons_iff, isActive_cons_iff, ih, h]

/-- The cursors decide the active path. -/
theorem IsAimed.activePath_eq (h : e.IsAimed) (h' : e'.IsAimed) (hc : e'.cursorAt = e.cursorAt) :
    e'.activePath = e.activePath := by
  have hiff (a : Address) : a <:+ e'.activePath.reverse ↔ a <:+ e.activePath.reverse :=
    h'.isActive_iff.symm.trans ((isActive_of_cursorAt_eq hc).trans h.isActive_iff)
  have hsuffix := (hiff _).1 List.suffix_rfl
  have hsuffix' := (hiff _).2 List.suffix_rfl
  exact List.reverse_inj.1 (hsuffix.eq_of_length_le hsuffix'.length_le)

/-- The active path decides the cursors of the managers on it. -/
theorem IsAimed.cursorAt_of_activePath_eq (h : e.IsAimed) (h' : e'.IsAimed) (ha : e.IsActive a)
    (hm : e.part? a = some (.manager m keys)) (hpath : e'.activePath = e.activePath) :
    e'.cursorAt a = m.cursor := by
  obtain ⟨key, -, hc⟩ := h hm
  have hact : e.IsActive (key :: a) := ⟨ha, m, keys, hm, hc⟩
  rw [h.isActive_iff, ← hpath, ← h'.isActive_iff, isActive_cons_iff] at hact
  exact hact.2.trans hc.symm

end Element

namespace Task

/-! ### Steps -/

/-- To hand down an input, and to decide on it, moves no cursor. -/
theorem Step.cursorAt_of_input {v : Value} (hs : (Task.input a v).Step e o) :
    o.top.cursorAt = e.cursorAt := by
  cases hs with
  | unmerged => exact (sameSkeleton_setState _).cursorAt_eq
  | unnamed | decided =>
    exact ((sameSkeleton_setStatus _).trans (sameSkeleton_setState _)).cursorAt_eq
  | accepted => exact (sameSkeleton_setAwaiting _).cursorAt_eq
  | _ => rfl

/-- To close a manager for a task of its holder takes that manager, and no other, back to its
    root. -/
theorem Step.cursorAt_of_close {t' : Task} (hs : (Task.close a).Step e o)
    (ho : o.result = .ok (some t')) (hm : e.part? a = some (.manager m keys)) :
    o.top.cursorAt b = if b = a then some m.root else e.cursorAt b := by
  cases hs with
  | @closed p key m' keys' d state hm' =>
    -- The state is the outermost manager's own, and the one that closes is below it.
    obtain ⟨rfl, rfl⟩ := Part.manager.inj (Option.some.inj (hm.symm.trans hm'))
    have hm'' : (e.setState state).part? (key :: p) = some (.manager m keys) :=
      (part?_mapManager_of_ne (List.cons_ne_nil key p)).trans hm
    rw [cursorAt_setCursor hm'', (sameSkeleton_setState state).cursorAt_eq]
  | _ => cases ho

/-- Whatever has happened to a manager in the course of a conversation, it refuses the same
    targets, and says so by the same name. -/
theorem Step.strayed_of_sameDesign {target : Value} (h : SameDesign e e')
    (hm : e.part? a = some (.manager m keys)) (hk : ∀ k ∈ keys, target ≠ .text k) :
    (Task.move a target).Step e' ⟨.error (m.stray target), e', [], []⟩ := by
  obtain ⟨m', hm', hname, -⟩ := h.exists_decision hm
  rw [← Manager.stray_congr hname]
  exact .strayed hm' hk

/-- A decision that leads astray is merged and reported, and the move to its target fails. -/
theorem Strays.exists_step (ht : t.Strays e cause) : ∃ o t', t.Step e o ∧
    o.result = .ok (some t') ∧ t'.Step o.top ⟨.error cause, o.top, [], []⟩ := by
  cases ht with
  | @leaf p _ _ _ d _ _ _ hl hd hg hfin hw hm hk =>
    have hs := Step.decided hl hd hg hw
    rw [Decision.task_of_unfinished hfin p] at hs
    exact ⟨_, _, hs, rfl, .strayed_of_sameDesign hs.sameDesign.symm hm hk⟩
  | @manager p _ _ _ d _ _ _ hm hd hg hfin hw hh hk =>
    have hs := Step.closed hm hd hg hw
    rw [Decision.task_of_unfinished hfin p] at hs
    exact ⟨_, _, hs, rfl, .strayed_of_sameDesign hs.sameDesign.symm hh hk⟩

/-- A run that comes to such a decision fails, unless it is cut short there, and leaves what the
    decision has left. -/
theorem Runs.of_strays (hr : t.Runs (n + 1) e c) (ht : t.Strays e cause) :
    (c.result = .error cause ∨ c.result = .error .endless) ∧
      ∃ o t', t.Step e o ∧ o.result = .ok (some t') ∧ c.top = o.top := by
  obtain ⟨o, t', hs, ho, hfails⟩ := ht.exists_step
  -- The decision takes the last task that is allowed, or the move is the one after it.
  cases n with
  | zero =>
    obtain rfl := (Runs.next hs ho .endless).unique_of_length hr
    exact ⟨.inr rfl, o, t', hs, ho, rfl⟩
  | succ n =>
    obtain rfl := (Runs.next hs ho (.failed hfails rfl)).unique_of_length hr
    exact ⟨.inl rfl, o, t', hs, ho, rfl⟩

end Task

end Parley

import Parley.Proofs.Flow.Change

/-!
# Busy leaves

A leaf is *busy* from the time it is executed until it has decided. While a flow
is under way no leaf is busy (`Element.IsCalm`), or the active one at most
(`Element.IsCalmOffPath`):

* a leaf that is executed is on the way along the cursors, so it is the only one
  (`IsCalmOffPath.setStatus`), and the flow is calm again once it has decided
  (`IsCalmOffPath.setStatus_resolved`);
* a move attaches leaves, which are not busy then (`IsCalm.moveTo`).
-/

namespace Parley

/-- The leaf has been executed, and has not decided since. -/
def Leaf.IsBusy (l : Leaf) : Prop :=
  l.status = .executing ∨ l.status = .awaitingInput

namespace Element

variable {e : Element} {a b : Address} {key : String} {m : Manager} {keys : List String}
  {l l' : Leaf}

/-- No leaf is busy. -/
def IsCalm (e : Element) : Prop :=
  ∀ ⦃a l⦄, e.part? a = some (.leaf l) → ¬l.IsBusy

/-- No leaf is busy but the active one. -/
def IsCalmOffPath (e : Element) : Prop :=
  ∀ ⦃a l⦄, e.part? a = some (.leaf l) → l.IsBusy → e.IsActive a

theorem IsCalm.offPath (h : e.IsCalm) : e.IsCalmOffPath :=
  fun _ _ hl hb => absurd hb (h hl)

/-! ### Changes of managers -/

/-- A change of a manager changes no leaf. -/
theorem leaf_mapManager {f : Manager → Manager} :
    (e.modifyAt (mapManager f) a).part? b = some (.leaf l) ↔ e.part? b = some (.leaf l) := by
  rw [part?_mapManager]
  split
  · subst b
    cases e.part? a with
    | none => simp
    | some p => cases p <;> simp [Part.mapManager]
  · rfl

theorem IsCalm.mapManager {f : Manager → Manager} (h : e.IsCalm) :
    (e.modifyAt (mapManager f) a).IsCalm :=
  fun _ _ hl => h (leaf_mapManager.1 hl)

theorem IsCalm.setState (h : e.IsCalm) (state : Mapping) : (e.setState state).IsCalm :=
  IsCalm.mapManager (a := []) h

theorem IsCalm.setFinished (h : e.IsCalm) : e.setFinished.IsCalm :=
  IsCalm.mapManager (a := []) h

theorem IsCalm.setCursor (h : e.IsCalm) : (e.setCursor a key).IsCalm :=
  h.mapManager

/-- Where the cursors stay, so does the active leaf. -/
theorem IsCalmOffPath.mapManager {f : Manager → Manager} (h : e.IsCalmOffPath)
    (hs : SameSkeleton (e.mapManager f) e) : (e.mapManager f).IsCalmOffPath :=
  fun _ _ hl hb => hs.symm.isActive (h ((leaf_mapManager (a := [])).1 hl) hb)

theorem IsCalmOffPath.setState (h : e.IsCalmOffPath) (state : Mapping) :
    (e.setState state).IsCalmOffPath :=
  h.mapManager (sameSkeleton_setState state)

theorem IsCalmOffPath.setAwaiting (h : e.IsCalmOffPath) (awaiting : Bool) :
    (e.setAwaiting awaiting).IsCalmOffPath :=
  h.mapManager (sameSkeleton_setAwaiting awaiting)

/-! ### Changes of a status -/

/-- A leaf of a given status, and the others as they were. -/
theorem leaf_setStatus {status : Status} (h : (e.setStatus a status).part? b = some (.leaf l)) :
    (b = a ∧ l.status = status) ∨ (b ≠ a ∧ e.part? b = some (.leaf l)) := by
  rw [part?_setStatus] at h
  split at h
  · subst b
    obtain ⟨p, -, hp⟩ := Option.map_eq_some_iff.1 h
    cases p with
    | leaf l' => cases hp; exact .inl ⟨rfl, rfl⟩
    | manager m keys => cases hp
  · exact .inr ⟨‹_›, h⟩

/-- Where no leaf is busy, the active one may become so. -/
theorem IsCalmOffPath.setStatus (h : e.IsCalmOffPath) (ha : e.IsActive a) (status : Status) :
    (e.setStatus a status).IsCalmOffPath := by
  intro b l hl hb
  refine (sameSkeleton_setStatus status).symm.isActive ?_
  rcases leaf_setStatus hl with ⟨rfl, -⟩ | ⟨-, hl⟩
  · exact ha
  · exact h hl hb

/-- Once the active leaf has decided, no leaf is busy. -/
theorem IsCalmOffPath.setStatus_resolved (h : e.IsCalmOffPath) (ha : e.IsActive a)
    (hl : e.part? a = some (.leaf l)) : (e.setStatus a .resolved).IsCalm := by
  intro b l' hl' hb
  rcases leaf_setStatus hl' with ⟨-, hr⟩ | ⟨hne, hl'⟩
  · simp [Leaf.IsBusy, hr] at hb
  · exact hne ((h hl' hb).eq_of_leaf hl' ha hl)

/-! ### Moves -/

/-- What a move attaches is not busy. -/
theorem IsCalm.moveTo (h : e.IsCalm) (ha : e.IsActive a)
    (hm : e.part? a = some (.manager m keys)) : (e.moveTo a key).IsCalm := by
  intro b l hl
  by_cases hne : b = a
  · subst b
    rw [part?_moveTo_self hm] at hl
    cases hl
  by_cases hb : key :: a <:+ b ∧ (e.moveTo a key).IsActive b
  · rw [part?_moveTo_of_isActive hb.1 hb.2] at hl
    obtain ⟨p, -, hp⟩ := Option.map_eq_some_iff.1 hl
    cases p with
    | leaf l' => cases hp; simp [Leaf.IsBusy]
    | manager m keys => cases hp
  · rw [part?_moveTo_of_ne ha hm hne hb] at hl
    exact h hl

end Element

end Parley

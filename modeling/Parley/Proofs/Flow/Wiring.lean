import Parley.Proofs.Flow.Change

/-!
# The wiring of a flow

What holds of the links and cursors of a flow in use, whatever its state and the
status of its leaves (`Wired`): the elements on the way to the active leaf report
to the managers that hold them (`Wired.isAttached`), and a manager that is not on
that way has its cursor at its root.

An element is attached only when a cursor is set on it. So a manager that goes
back to its root needs the child there to have been attached before, and a
manager that is entered must have its cursor at its root, as must all managers
below it (`RewoundBelow`), for what is attached then is what is at its root.
With that, the wiring outlasts going back (`Wired.rewind`) and moving on
(`Wired.moveTo`).
-/

namespace Parley.Element

variable {e e' : Element} {a b c : Address} {key : String} {m : Manager} {keys : List String}

/-- The managers above an address hold each other and the element there; the
    outermost one is held by nothing. -/
def IsAttached (e : Element) : Address → Prop
  | [] => ∃ p, e.part? [] = some p ∧ p.link = .free
  | key :: a => e.IsAttached a ∧ ∃ p, e.part? (key :: a) = some p ∧ p.link = .holder

/-- Every manager below an address has its cursor at its root. -/
def RewoundBelow (e : Element) (a : Address) : Prop :=
  ∀ ⦃c m keys⦄, c ≠ [] → e.part? (c ++ a) = some (.manager m keys) → m.cursor = some m.root

/-- The wiring of a flow in use. -/
structure Wired (e : Element) : Prop where
  /-- Nothing holds the outermost element, which is a manager. -/
  outermost : ∃ m keys, e.part? [] = some (.manager m keys) ∧ m.link = .free
  aimed : e.IsAimed
  rooted : ∀ ⦃a m keys⦄, e.part? a = some (.manager m keys) → m.root ∈ keys
  /-- A manager in use holds the children at its cursor and at its root. -/
  attached : ∀ ⦃a m keys key p⦄, e.part? a = some (.manager m keys) → (a = [] ∨ m.link = .holder) →
    (m.cursor = some key ∨ m.root = key) → e.part? (key :: a) = some p → p.link = .holder
  /-- A manager off the way to the active leaf has its cursor at its root. -/
  rewound : ∀ ⦃a m keys⦄, e.part? a = some (.manager m keys) → ¬e.IsActive a →
    m.cursor = some m.root

namespace Wired

/-- What is on the way to the active leaf is attached. -/
theorem isAttached (h : e.Wired) (ha : e.IsActive a) (hp : (e.part? a).isSome) :
    e.IsAttached a := by
  induction a with
  | nil =>
    obtain ⟨m, keys, hm, hl⟩ := h.outermost
    exact ⟨_, hm, hl⟩
  | cons key a ih =>
    obtain ⟨ha, m, keys, hm, hc⟩ := ha
    have hat : e.IsAttached a := ih ha (by rw [hm]; rfl)
    obtain ⟨p, hp⟩ := Option.isSome_iff_exists.1 hp
    refine ⟨hat, p, hp, h.attached hm ?_ (.inl hc) hp⟩
    cases a with
    | nil => exact .inl rfl
    | cons k a =>
      obtain ⟨-, q, hq, hl⟩ := hat
      rw [hm] at hq
      cases hq
      exact .inr hl

/-- The cursor of an active manager leads to an active child. -/
theorem exists_active_child (h : e.Wired) (ha : e.IsActive a)
    (hp : e.part? a = some (.manager m keys)) :
    ∃ key ∈ keys, m.cursor = some key ∧ e.IsActive (key :: a) ∧ (e.part? (key :: a)).isSome := by
  obtain ⟨key, hk, hc⟩ := h.aimed hp
  exact ⟨key, hk, hc, ⟨ha, m, keys, hp, hc⟩, part?_cons_isSome_iff.2 ⟨m, keys, hp, hk⟩⟩

/-- A leaf of a wired flow has a holder. -/
theorem exists_cons {l : Leaf} (h : e.Wired) (hl : e.part? a = some (.leaf l)) :
    ∃ key p, a = key :: p := by
  cases a with
  | cons key p => exact ⟨key, p, rfl⟩
  | nil =>
    obtain ⟨m, keys, hm, -⟩ := h.outermost
    rw [hm] at hl
    cases hl

/-- A change of the session is one of the outermost manager. -/
theorem session_mapManager (h : e.Wired) {f : Manager → Manager} :
    (e.mapManager f).session = f e.session := by
  obtain ⟨m, keys, hm, -⟩ := h.outermost
  exact Element.session_mapManager hm

theorem session_setState (h : e.Wired) (state : Mapping) :
    (e.setState state).session = { e.session with state := state } :=
  h.session_mapManager

theorem session_setAwaiting (h : e.Wired) (awaiting : Bool) :
    (e.setAwaiting awaiting).session = { e.session with awaiting := awaiting } :=
  h.session_mapManager

theorem session_setFinished (h : e.Wired) :
    e.setFinished.session = { e.session with finished := true } :=
  h.session_mapManager

/-- Status and session do not matter to the wiring. -/
theorem of_sameSkeleton (h : e.Wired) (hs : SameSkeleton e e') : e'.Wired where
  outermost := by
    obtain ⟨m, keys, hm, hl⟩ := h.outermost
    obtain ⟨m', hm', -, -, -, hl', -⟩ := hs.manager hm
    exact ⟨m', keys, hm', hl'.trans hl⟩
  aimed a m keys hp := by
    obtain ⟨m', hp', -, -, -, -, hc⟩ := hs.symm.manager hp
    exact hc ▸ h.aimed hp'
  rooted a m keys hp := by
    obtain ⟨m', hp', -, hr, -⟩ := hs.symm.manager hp
    exact hr ▸ h.rooted hp'
  attached a m keys key p hp ha hk hc := by
    obtain ⟨m', hp', -, hr, -, hl, hcur⟩ := hs.symm.manager hp
    obtain ⟨q, hq, hql⟩ := hs.symm.exists_link hc
    exact hql ▸ h.attached hp' (hl ▸ ha) (hcur ▸ hr ▸ hk) hq
  rewound a m keys hp ha := by
    obtain ⟨m', hp', -, hr, -, -, hc⟩ := hs.symm.manager hp
    exact hc ▸ hr ▸ h.rewound hp' fun hact => ha (hs.isActive hact)

/-! ### Going back to the root -/

theorem part?_setCursor_link {p : Part} (hp : (e.setCursor a key).part? b = some p) :
    ∃ q, e.part? b = some q ∧ q.link = p.link := by
  rw [part?_setCursor] at hp
  split at hp
  · subst b
    obtain ⟨q, hq, rfl⟩ := Option.map_eq_some_iff.1 hp
    exact ⟨q, hq, by cases q <;> rfl⟩
  · exact ⟨p, hp, rfl⟩

/-- A cursor does not matter to what is above it. -/
theorem isActive_setCursor (ha : e.IsActive b) (hb : b <:+ a) : (e.setCursor a key).IsActive b := by
  refine ha.congr fun c m keys hc hne hp => ⟨m, keys, ?_, rfl⟩
  have hn : c ≠ a := by
    rintro rfl
    exact hne (hc.eq_of_length_le hb.length_le)
  rw [part?_setCursor, if_neg hn, hp]

/-- A change that leaves what is above an active address active ends the use of what is
    below it only. -/
theorem exists_below_of_not_active (ha : e.IsActive a) (hb : e.IsActive b) (hb' : ¬e'.IsActive b)
    (hup : ∀ c, c <:+ a → e.IsActive c → e'.IsActive c) : ∃ c, c ≠ [] ∧ b = c ++ a := by
  rcases Nat.le_total b.length a.length with hle | hle
  · exact absurd (hup b (hb.suffix ha hle) hb) hb'
  · obtain ⟨c, rfl⟩ := ha.suffix hb hle
    refine ⟨c, ?_, rfl⟩
    rintro rfl
    exact hb' (hup _ List.suffix_rfl hb)

/-- A manager below which all cursors are at their roots can go back to its
    own root. -/
theorem rewind (h : e.Wired) (ha : e.IsActive a) (hm : e.part? a = some (.manager m keys))
    (hr : e.RewoundBelow a) : (e.setCursor a m.root).Wired where
  outermost := by
    obtain ⟨m', keys', hm', hl⟩ := h.outermost
    rw [part?_setCursor]
    split
    · subst a
      rw [hm']
      exact ⟨_, _, rfl, hl⟩
    · exact ⟨m', keys', hm', hl⟩
  aimed b m' keys' hp := by
    rw [part?_setCursor] at hp
    split at hp
    · rw [hm] at hp
      cases hp
      exact ⟨m.root, h.rooted hm, rfl⟩
    · exact h.aimed hp
  rooted b m' keys' hp := by
    rw [part?_setCursor] at hp
    split at hp
    · have hroot := h.rooted hm
      rw [hm] at hp
      cases hp
      exact hroot
    · exact h.rooted hp
  attached b m' keys' key p hp hb hk hc := by
    obtain ⟨q, hq, hql⟩ := part?_setCursor_link hc
    rw [part?_setCursor] at hp
    split at hp
    · subst b
      rw [hm] at hp
      cases hp
      -- The cursor is at the root now, where the child has been attached all along.
      have hroot : m.root = key := hk.elim (fun h => Option.some.inj h) id
      exact hql ▸ h.attached hm hb (.inr hroot) hq
    · exact hql ▸ h.attached hp hb hk hq
  rewound b m' keys' hp hb := by
    rw [part?_setCursor] at hp
    split at hp
    · rw [hm] at hp
      cases hp
      rfl
    · by_cases hact : e.IsActive b
      · obtain ⟨c, hne, rfl⟩ := exists_below_of_not_active ha hact hb
          fun _ hc hact => isActive_setCursor hact hc
        exact hr hne hp
      · exact h.rewound hp hact

/-- All managers below the holder of an active leaf are off the way to it. -/
theorem rewoundBelow_of_leaf {l : Leaf} (h : e.Wired) (ha : e.IsActive (key :: a))
    (hl : e.part? (key :: a) = some (.leaf l)) : e.RewoundBelow a := by
  intro c m keys hne hp
  refine h.rewound hp fun hact => ?_
  have hlen := List.length_pos_iff.2 hne
  have heq : c ++ a = key :: a :=
    (hact.suffix_leaf ha hl).eq_of_length_le (by simp; omega)
  rw [heq, hl] at hp
  cases hp

/-- Once a manager has gone back to its root, so have all below its holder. -/
theorem rewoundBelow_rewind (h : e.Wired) (ha : e.IsActive (key :: a))
    (hm : e.part? (key :: a) = some (.manager m keys)) (hr : e.RewoundBelow (key :: a)) :
    (e.setCursor (key :: a) m.root).RewoundBelow a := by
  intro c m' keys' hne hp
  rw [part?_setCursor] at hp
  split at hp
  · rw [hm] at hp
    cases hp
    rfl
  · rename_i hne'
    by_cases hact : e.IsActive (c ++ a)
    · have hlen : (key :: a).length ≤ (c ++ a).length := by
        have := List.length_pos_iff.2 hne
        simp
        omega
      obtain ⟨d, hd⟩ := ha.suffix hact hlen
      rw [← hd] at hp hne'
      exact hr (by rintro rfl; exact hne' rfl) hp
    · exact h.rewound hp hact

/-! ### Moving on -/

/-- A manager after a move: the one that moves, one on the way down from the
    child moved to, or one that has not changed. -/
theorem manager_moveTo_cases {m' : Manager} {keys' : List String} (ha : e.IsActive a)
    (hm : e.part? a = some (.manager m keys)) (hr : e.RewoundBelow a)
    (hp : (e.moveTo a key).part? b = some (.manager m' keys')) :
    (b = a ∧ m' = { m with cursor := some key } ∧ keys' = keys) ∨
    ((key :: a <:+ b ∧ (e.moveTo a key).IsActive b) ∧ m'.cursor = some m'.root ∧
      ∃ m₀, e.part? b = some (.manager m₀ keys') ∧ m' = { m₀ with link := .holder }) ∨
    (b ≠ a ∧ ¬(key :: a <:+ b ∧ (e.moveTo a key).IsActive b) ∧
      e.part? b = some (.manager m' keys')) := by
  by_cases hne : b = a
  · subst b
    rw [part?_moveTo_self hm] at hp
    cases hp
    exact .inl ⟨rfl, rfl, rfl⟩
  by_cases hb : key :: a <:+ b ∧ (e.moveTo a key).IsActive b
  · rw [part?_moveTo_of_isActive hb.1 hb.2] at hp
    obtain ⟨p, hp, hm'⟩ := Option.map_eq_some_iff.1 hp
    cases p with
    | leaf l => cases hm'
    | manager m₀ keys₀ =>
      cases hm'
      obtain ⟨c, rfl⟩ := hb.1
      have hc : m₀.cursor = some m₀.root := hr (c := c ++ [key]) (by simp) (by simpa using hp)
      exact .inr (.inl ⟨hb, hc, m₀, hp, rfl⟩)
  · rw [part?_moveTo_of_ne ha hm hne hb] at hp
    exact .inr (.inr ⟨hne, hb, hp⟩)

/-- What is on the way down from the child moved to has been attached. -/
theorem link_moveTo {p : Part} (hb : key :: a <:+ b) (ha : (e.moveTo a key).IsActive b)
    (hp : (e.moveTo a key).part? b = some p) : p.link = .holder := by
  rw [part?_moveTo_of_isActive hb ha] at hp
  obtain ⟨q, -, rfl⟩ := Option.map_eq_some_iff.1 hp
  cases q <;> rfl

/-- All else reports to what it reported to. -/
theorem exists_link_moveTo {p : Part} (ha : e.IsActive a) (hm : e.part? a = some (.manager m keys))
    (hb : ¬(key :: a <:+ b ∧ (e.moveTo a key).IsActive b))
    (hp : (e.moveTo a key).part? b = some p) : ∃ q, e.part? b = some q ∧ q.link = p.link := by
  by_cases hne : b = a
  · subst b
    rw [part?_moveTo_self hm] at hp
    cases hp
    exact ⟨_, hm, rfl⟩
  · rw [part?_moveTo_of_ne ha hm hne hb] at hp
    exact ⟨p, hp, rfl⟩

/-- After a move, too, a manager in use holds the children at its cursor and at its root. -/
theorem attached_moveTo {m' : Manager} {keys' : List String} {k : String} {p : Part} (h : e.Wired)
    (ha : e.IsActive a) (hm : e.part? a = some (.manager m keys)) (hr : e.RewoundBelow a)
    (hp : (e.moveTo a key).part? b = some (.manager m' keys')) (hb : b = [] ∨ m'.link = .holder)
    (hk : m'.cursor = some k ∨ m'.root = k) (hc : (e.moveTo a key).part? (k :: b) = some p) :
    p.link = .holder := by
  rcases manager_moveTo_cases ha hm hr hp with ⟨rfl, rfl, rfl⟩ | ⟨hnew, hcur, -⟩ | ⟨hne, hold, hp'⟩
  · -- The manager that moves: the child moved to, or the one at the root.
    by_cases hkey : k = key
    · subst k
      exact link_moveTo List.suffix_rfl (isActive_moveTo_cons ha hm) hc
    · have hold : ¬(key :: b <:+ k :: b ∧ (e.moveTo b key).IsActive (k :: b)) := fun h =>
        hkey (List.cons.inj (h.1.eq_of_length rfl)).1.symm
      obtain ⟨q, hq, hl⟩ := exists_link_moveTo ha hm hold hc
      have hroot : m.root = k := hk.resolve_left fun h => hkey (Option.some.inj h).symm
      exact hl ▸ h.attached hm hb (.inr hroot) hq
  · -- One on the way down: what is at its root is at its cursor.
    have hcur' : m'.cursor = some k := hk.elim id fun h => h ▸ hcur
    exact link_moveTo (hnew.1.trans (List.suffix_cons k b)) ⟨hnew.2, m', keys', hp, hcur'⟩ hc
  · -- One that has not changed holds nothing that has.
    have hold' : ¬(key :: a <:+ k :: b ∧ (e.moveTo a key).IsActive (k :: b)) := by
      rintro ⟨hs, hact⟩
      rcases List.suffix_cons_iff.1 hs with heq | hs
      · exact hne (List.cons.inj heq).2.symm
      · exact hold ⟨hs, hact.1⟩
    obtain ⟨q, hq, hl⟩ := exists_link_moveTo ha hm hold' hc
    exact hl ▸ h.attached hp' hb hk hq

/-- A manager below which all cursors are at their roots can move to any of its
    children. -/
theorem moveTo (h : e.Wired) (ha : e.IsActive a) (hm : e.part? a = some (.manager m keys))
    (hk : key ∈ keys) (hr : e.RewoundBelow a) : (e.moveTo a key).Wired where
  outermost := by
    obtain ⟨m', keys', hm', hl⟩ := h.outermost
    by_cases hne : [] = a
    · subst hne
      rw [hm'] at hm
      cases hm
      exact ⟨_, _, part?_moveTo_self hm', hl⟩
    · refine ⟨m', keys', ?_, hl⟩
      rw [part?_moveTo_of_ne ha hm hne fun h => not_cons_suffix List.nil_suffix h.1, hm']
  aimed b m' keys' hp := by
    rcases manager_moveTo_cases ha hm hr hp with ⟨-, rfl, rfl⟩ | ⟨-, -, m₀, hp₀, rfl⟩ | ⟨-, -, hp⟩
    · exact ⟨key, hk, rfl⟩
    · have haimed := h.aimed hp₀
      exact haimed
    · exact h.aimed hp
  rooted b m' keys' hp := by
    rcases manager_moveTo_cases ha hm hr hp with ⟨-, rfl, rfl⟩ | ⟨-, -, m₀, hp₀, rfl⟩ | ⟨-, -, hp⟩
    · have hroot := h.rooted hm
      exact hroot
    · have hroot := h.rooted hp₀
      exact hroot
    · exact h.rooted hp
  attached b m' keys' k p hp hb hk' hc := h.attached_moveTo ha hm hr hp hb hk' hc
  rewound b m' keys' hp hb := by
    rcases manager_moveTo_cases ha hm hr hp with ⟨rfl, -, -⟩ | ⟨hnew, -⟩ | ⟨-, -, hp⟩
    · exact absurd (isActive_moveTo ha) hb
    · exact absurd hnew.2 hb
    · by_cases hact : e.IsActive b
      · have hup {c : Address} (hc : c <:+ a) : (e.moveTo a key).IsActive c := by
          obtain ⟨d, rfl⟩ := hc
          exact (isActive_moveTo ha).of_append
        obtain ⟨c, hne, rfl⟩ := exists_below_of_not_active ha hact hb fun _ hc _ => hup hc
        exact hr hne hp
      · exact h.rewound hp hact

end Wired

/-! ### Elements in use -/

/-- In a wired flow there is an element at the address, on the way to the
    active leaf. -/
structure InUse (e : Element) (a : Address) : Prop where
  wired : e.Wired
  active : e.IsActive a
  isSome : (e.part? a).isSome

namespace InUse

theorem isAttached (h : e.InUse a) : e.IsAttached a :=
  h.wired.isAttached h.active h.isSome

/-- What is in use is held by what is in use. -/
theorem tail (h : e.InUse (key :: a)) : e.InUse a := by
  obtain ⟨hw, ⟨ha, m, keys, hm, -⟩, -⟩ := h
  exact ⟨hw, ha, by rw [hm]; rfl⟩

/-- The holder of what is in use has its cursor there. -/
theorem exists_holder (h : e.InUse (key :: a)) :
    ∃ m keys, e.part? a = some (.manager m keys) ∧ m.cursor = some key ∧ key ∈ keys := by
  obtain ⟨-, ⟨-, m, keys, hm, hc⟩, hs⟩ := h
  obtain ⟨m', keys', hm', hk⟩ := part?_cons_isSome_iff.1 hs
  rw [hm] at hm'
  cases hm'
  exact ⟨m, keys, hm, hc, hk⟩

theorem of_sameSkeleton (h : e.InUse a) (hs : SameSkeleton e e') : e'.InUse a := by
  refine ⟨h.wired.of_sameSkeleton hs, hs.isActive h.active, ?_⟩
  have hsome := h.isSome
  rw [← Option.isSome_map (f := Part.skeleton), hs a, Option.isSome_map] at hsome
  exact hsome

theorem top (h : e.Wired) : e.InUse [] :=
  ⟨h, isActive_nil, rfl⟩

end InUse

end Parley.Element

import Mathlib.Data.List.Induction
import Parley.Proofs.Flow.Part

/-!
# Active paths

The cursors of a flow lead from its top down to one leaf. An address on that
way is *active* (`Element.IsActive`): the cursor of every manager above it points
down to it. There is at most one active address at each depth
(`IsActive.suffix`), and the one of a leaf, read from the top, is the active path
(`activePath_eq_reverse`).

Attaching an element changes the parts at its active addresses and no others
(`part?_attach`), and fails only at a cursor that is on no child
(`attach_snd`).
-/

namespace Parley

namespace Part

/-- What attaching makes of a part: it reports to what `link` says, and a leaf
    is ready to be executed. -/
def attached (link : Link) : Part → Part
  | .leaf l => .leaf { l with link := link, status := .assigned }
  | .manager m keys => .manager { m with link := link } keys

end Part

namespace Element

variable {e x : Element} {a b c : Address} {key : String} {cs : List (String × Element)}
  {m : Manager} {keys : List String} {link : Link}

/-- The address is on the way along the cursors from the top to the active leaf. -/
def IsActive (e : Element) : Address → Prop
  | [] => True
  | key :: a => e.IsActive a ∧ ∃ m keys, e.part? a = some (.manager m keys) ∧ m.cursor = some key

/-- Every manager has its cursor on one of its children. -/
def IsAimed (e : Element) : Prop :=
  ∀ ⦃a m keys⦄, e.part? a = some (.manager m keys) → ∃ key ∈ keys, m.cursor = some key

/-! ### Active addresses -/

@[simp] theorem isActive_nil : e.IsActive [] := trivial

theorem IsActive.of_append (h : e.IsActive (a ++ b)) : e.IsActive b := by
  induction a with
  | nil => exact h
  | cons key a ih => exact ih h.1

/-- Of two active addresses the shorter one is on the way to the longer one. -/
theorem IsActive.suffix (ha : e.IsActive a) (hb : e.IsActive b) (hab : a.length ≤ b.length) :
    a <:+ b := by
  induction b generalizing a with
  | nil => simp_all
  | cons k b ih =>
    rcases Nat.lt_or_ge b.length a.length with hlt | hle
    · -- Of the same length they are the same, for a manager has one cursor.
      cases a with
      | nil => exact List.nil_suffix
      | cons key a =>
        have hlen : a.length = b.length := by simp at hab hlt; omega
        obtain rfl : a = b := (ih ha.1 hb.1 (Nat.le_of_eq hlen)).eq_of_length hlen
        obtain ⟨-, m, keys, hp, hc⟩ := ha
        obtain ⟨-, m', keys', hp', hc'⟩ := hb
        rw [hp] at hp'
        cases hp'
        rw [hc] at hc'
        cases hc'
        exact List.suffix_rfl
    · exact (ih ha hb.1 hle).trans (List.suffix_cons k b)

/-- All active addresses are on the way to an active leaf. -/
theorem IsActive.suffix_leaf {l : Leaf} (hb : e.IsActive b) (ha : e.IsActive a)
    (hl : e.part? a = some (.leaf l)) : b <:+ a := by
  rcases Nat.le_total b.length a.length with h | h
  · exact hb.suffix ha h
  · obtain ⟨c, rfl⟩ := ha.suffix hb h
    rcases List.eq_nil_or_concat c with rfl | ⟨c, k, rfl⟩
    · exact List.suffix_rfl
    · -- Below `a` there would be a manager at `a`.
      have hk : e.IsActive (k :: a) := IsActive.of_append (a := c) (by simpa using hb)
      obtain ⟨-, m, keys, hm, -⟩ := hk
      rw [hl] at hm
      cases hm

/-- There is one active leaf at most. -/
theorem IsActive.eq_of_leaf {l l' : Leaf} (ha : e.IsActive a) (hl : e.part? a = some (.leaf l))
    (hb : e.IsActive b) (hl' : e.part? b = some (.leaf l')) : a = b :=
  (ha.suffix_leaf hb hl').eq_of_length
    (Nat.le_antisymm (ha.suffix_leaf hb hl').length_le (hb.suffix_leaf ha hl).length_le)

/-- What is above an active address decides that it is active. -/
theorem IsActive.congr {e' : Element} (h : e.IsActive a)
    (hm : ∀ b m keys, b <:+ a → b ≠ a → e.part? b = some (.manager m keys) →
      ∃ m' keys', e'.part? b = some (.manager m' keys') ∧ m'.cursor = m.cursor) :
    e'.IsActive a := by
  induction a with
  | nil => exact isActive_nil
  | cons key a ih =>
    obtain ⟨ha, m, keys, hp, hc⟩ := h
    have hs : a <:+ key :: a := List.suffix_cons key a
    obtain ⟨m', keys', hp', hc'⟩ := hm a m keys hs (List.cons_ne_self key a).symm hp
    have ha' : e'.IsActive a := ih ha fun b m keys hb _ => by
      refine hm b m keys (hb.trans hs) ?_
      rintro rfl
      exact not_cons_suffix List.suffix_rfl hb
    exact ⟨ha', m', keys', hp', hc'.trans hc⟩

/-- An address below another is active if it is so from there on. -/
theorem isActive_append (hx : e.at? b = some x) :
    e.IsActive (a ++ b) ↔ e.IsActive b ∧ x.IsActive a := by
  induction a with
  | nil => simp
  | cons key a ih => simp [IsActive, ih, part?_append, hx, and_assoc]

theorem part?_concat :
    (manager m cs).part? (a ++ [key]) = (lookup key cs).bind fun x => x.part? a := by
  unfold part?
  rw [at?_concat, children]
  cases lookup key cs <;> rfl

/-- Whether an address is active is decided at the top and then below the
    child that the cursor of the top points to. -/
theorem isActive_concat (hx : lookup key cs = some x) :
    (manager m cs).IsActive (a ++ [key]) ↔ m.cursor = some key ∧ x.IsActive a := by
  rw [isActive_append (x := x) (by simp [at?_cons, children, hx])]
  simp [IsActive, part?_nil, part]

/-! ### The active path -/

theorem activeBelow_eq : activeBelow key cs = ((lookup key cs).map activePath).getD [] := by
  induction cs with
  | nil => rfl
  | cons c cs ih =>
    by_cases h : c.1 = key
    · simp [activeBelow, lookup_cons, h]
    · simp [activeBelow, lookup_cons, h, ih]

/-- The active path reads the address of the active leaf from the top. -/
theorem activePath_eq_reverse {l : Leaf} (ha : e.IsActive a) (hl : e.part? a = some (.leaf l)) :
    e.activePath = a.reverse := by
  induction a using List.reverseRecOn generalizing e with
  | nil =>
    cases e with
    | leaf l => rfl
    | manager m cs => simp [part?, part] at hl
  | append_singleton a key ih =>
    cases e with
    | leaf l => simp [part?, at?_concat, children, lookup] at hl
    | manager m cs =>
      cases hx : lookup key cs with
      | none => simp [part?_concat, hx] at hl
      | some x =>
        obtain ⟨hc, ha⟩ := (isActive_concat hx).1 ha
        rw [part?_concat, hx] at hl
        simp [activePath, hc, activeBelow_eq, hx, ih ha hl]

/-! ### Attaching -/

theorem attachChild_fst {holder : String} :
    (attachChild holder key cs).1 = update (fun x => (attach .holder x).1) key cs := by
  induction cs with
  | nil => rfl
  | cons c cs ih =>
    by_cases h : c.1 = key
    · simp [attachChild, update, h]
    · simp [attachChild, update, h, ih]

theorem attachChild_snd {holder : String} (hx : lookup key cs = some x) :
    (attachChild holder key cs).2 = (attach .holder x).2 := by
  induction cs with
  | nil => simp [lookup] at hx
  | cons c cs ih =>
    rw [lookup_cons] at hx
    by_cases h : c.1 = key
    · rw [if_pos h] at hx
      cases hx
      simp [attachChild, h]
    · rw [if_neg h] at hx
      simp [attachChild, h, ih hx]

theorem attach_manager (hc : m.cursor = some key) : attach link (manager m cs) =
    (manager { m with link := link } (attachChild m.name key cs).1,
      (attachChild m.name key cs).2) := by
  simp [attach, hc]

/-- Attaching changes the part of the element itself. -/
theorem part?_attach_nil : (attach link e).1.part? [] = (e.part? []).map (.attached link) := by
  cases e with
  | leaf l => simp [attach, part?_nil, part, Part.attached]
  | manager m cs =>
    cases hc : m.cursor with
    | none => simp [attach, hc, part?_nil, part, Part.attached]
    | some key =>
      simp [attach_manager hc, part?_nil, part, Part.attached, attachChild_fst]

theorem lookup_attachChild {holder : String} : lookup key (attachChild holder key cs).1 =
    (lookup key cs).map fun x => (attach .holder x).1 := by
  rw [attachChild_fst, lookup_update_self]

/-- Below the element, attaching makes the parts at active addresses report to
    their holders. -/
theorem part?_attach (ha : e.IsActive a) (hne : a ≠ []) :
    (attach link e).1.part? a = (e.part? a).map (.attached .holder) := by
  induction a using List.reverseRecOn generalizing e link with
  | nil => exact absurd rfl hne
  | append_singleton a key ih =>
    cases e with
    | leaf l => simp [attach, part?, at?_concat, children, lookup]
    | manager m cs =>
      obtain ⟨-, m', keys, hm, hc⟩ := ha.of_append (a := a) (b := [key])
      cases hm
      rw [attach_manager hc, part?_concat, part?_concat, lookup_attachChild]
      cases hx : lookup key cs with
      | none => rfl
      | some x =>
        cases a with
        | nil => exact part?_attach_nil
        | cons k a => exact ih ((isActive_concat hx).1 ha).2 (List.cons_ne_nil k a)

/-- Attaching changes nothing at the other addresses. -/
theorem part?_attach_of_not_isActive (ha : ¬e.IsActive a) :
    (attach link e).1.part? a = e.part? a := by
  induction a using List.reverseRecOn generalizing e link with
  | nil => exact absurd isActive_nil ha
  | append_singleton a key ih =>
    cases e with
    | leaf l => simp [attach, part?, at?_concat, children, lookup]
    | manager m cs =>
      cases hc : m.cursor with
      | none => simp [attach, hc, part?_concat]
      | some k =>
        rw [attach_manager hc, part?_concat, part?_concat]
        by_cases hk : key = k
        · -- Along the cursor, but off the way further down.
          subst hk
          rw [lookup_attachChild]
          cases hx : lookup key cs with
          | none => rfl
          | some x => exact ih fun hax => ha ((isActive_concat hx).2 ⟨hc, hax⟩)
        · rw [attachChild_fst, lookup_update_of_ne hk]

/-- Attaching changes a part only as `Part.attached` does, if at all. -/
theorem part?_attach_eq_map (link : Link) (a : Address) : ∃ f : Part → Part,
    (attach link e).1.part? a = (e.part? a).map f ∧ (f = id ∨ ∃ link, f = .attached link) := by
  by_cases ha : e.IsActive a
  · cases a with
    | nil => exact ⟨_, part?_attach_nil, .inr ⟨link, rfl⟩⟩
    | cons key a => exact ⟨_, part?_attach ha (List.cons_ne_nil key a), .inr ⟨.holder, rfl⟩⟩
  · exact ⟨id, by rw [part?_attach_of_not_isActive ha, Option.map_id, id], .inl rfl⟩

/-- Attaching moves no cursor. -/
theorem isActive_attach : (attach link e).1.IsActive a ↔ e.IsActive a := by
  constructor <;> intro h <;> refine h.congr fun b m keys _ _ hp => ?_ <;>
    obtain ⟨f, hf, rfl | ⟨link', rfl⟩⟩ := part?_attach_eq_map link (e := e) b
  · rw [hf, Option.map_id] at hp
    exact ⟨m, keys, hp, rfl⟩
  · rw [hf] at hp
    obtain ⟨p, hp, hm⟩ := Option.map_eq_some_iff.1 hp
    cases p with
    | leaf l => cases hm
    | manager m' keys' => cases hm; exact ⟨m', keys, hp, rfl⟩
  · exact ⟨m, keys, by rw [hf, Option.map_id]; exact hp, rfl⟩
  · exact ⟨{ m with link := link' }, keys, by rw [hf, hp]; rfl, rfl⟩

theorem IsAimed.child (h : (manager m cs).IsAimed) (hx : lookup key cs = some x) : x.IsAimed := by
  intro a m' keys hp
  exact h (a := a ++ [key]) (by rw [part?_concat, hx, Option.bind_some, hp])

/-- Attaching does not fail where every cursor is on a child. -/
theorem attach_snd (h : e.IsAimed) : (attach link e).2 = none := by
  induction e using induction_on_children generalizing link with
  | leaf l => rfl
  | manager m cs ih =>
    obtain ⟨key, hk, hc⟩ := h (a := []) rfl
    obtain ⟨x, hx⟩ := exists_lookup hk
    rw [attach_manager hc, attachChild_snd hx]
    exact ih key x hx (h.child hx)

/-- Where every cursor is on a child, the active path leads to a leaf. -/
theorem IsAimed.exists_leaf (h : e.IsAimed) :
    e.IsActive e.activePath.reverse ∧ ∃ l, e.part? e.activePath.reverse = some (.leaf l) := by
  induction e using induction_on_children with
  | leaf l => exact ⟨isActive_nil, l, rfl⟩
  | manager m cs ih =>
    obtain ⟨key, hk, hc⟩ := h (a := []) rfl
    obtain ⟨x, hx⟩ := exists_lookup hk
    obtain ⟨hact, l, hl⟩ := ih key x hx (h.child hx)
    have hpath : (manager m cs).activePath.reverse = x.activePath.reverse ++ [key] := by
      simp [activePath, hc, activeBelow_eq, hx]
    rw [hpath, isActive_concat hx, part?_concat, hx]
    exact ⟨⟨hc, hact⟩, l, hl⟩

end Element

end Parley

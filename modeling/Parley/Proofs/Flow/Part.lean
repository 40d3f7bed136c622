import Parley.Flow.Traversal

/-!
# The parts of a flow

What a flow is at each of its addresses: the leaf there, or the manager there
with the keys of its children but without the children themselves (`Part`). All
that happens to a flow happens to the part at one address at a time, except
that attaching goes down along the cursors:

* `part?_modifyAt`: a change of a manager's or a leaf's own fields changes the
  part at its address, and no other;
* `part?_cons_isSome_iff`: there is a part at an address if there is a manager at
  its tail that has its head among its keys.

So a statement about the whole flow is one about all addresses, and need not
follow the tree.
-/

namespace Parley

/-- An element without its children; a manager keeps their keys. -/
inductive Part where
  | leaf (l : Leaf)
  | manager (m : Manager) (keys : List String)

namespace Part

def link : Part → Link
  | .leaf l => l.link
  | .manager m _ => m.link

def name : Part → String
  | .leaf l => l.name
  | .manager m _ => m.name

/-- Changes a manager's own fields. -/
def mapManager (f : Manager → Manager) : Part → Part
  | .manager m keys => .manager (f m) keys
  | p => p

/-- Changes a leaf. -/
def mapLeaf (f : Leaf → Leaf) : Part → Part
  | .leaf l => .leaf (f l)
  | p => p

end Part

namespace Element

variable {e x : Element} {f : Element → Element} {g : Part → Part} {a b : Address} {key k : String}
  {cs : List (String × Element)}

/-- The element without its children. -/
def part : Element → Part
  | .leaf l => .leaf l
  | .manager m cs => .manager m (cs.map Prod.fst)

/-- What there is at an address. -/
def part? (e : Element) (a : Address) : Option Part :=
  (e.at? a).map part

/-! ### Children -/

theorem lookup_cons (c : String × Element) :
    lookup key (c :: cs) = if c.1 = key then some c.2 else lookup key cs := by
  by_cases h : c.1 = key <;> simp [lookup, h]

theorem lookup_isSome_iff : (lookup key cs).isSome ↔ key ∈ cs.map Prod.fst := by
  induction cs with
  | nil => simp [lookup]
  | cons c cs ih =>
    by_cases h : c.1 = key
    · simp [lookup_cons, h]
    · simp [lookup_cons, h, ih, Ne.symm h]

theorem exists_lookup (h : key ∈ cs.map Prod.fst) : ∃ x, lookup key cs = some x :=
  Option.isSome_iff_exists.1 (lookup_isSome_iff.2 h)

@[simp] theorem map_fst_update : (update f key cs).map Prod.fst = cs.map Prod.fst := by
  induction cs with
  | nil => rfl
  | cons c cs ih => by_cases h : c.1 = key <;> simp [update, h, ih]

@[simp] theorem lookup_update_self : lookup key (update f key cs) = (lookup key cs).map f := by
  induction cs with
  | nil => rfl
  | cons c cs ih => by_cases h : c.1 = key <;> simp [update, lookup_cons, h, ih]

theorem lookup_update_of_ne (hk : k ≠ key) : lookup k (update f key cs) = lookup k cs := by
  induction cs with
  | nil => rfl
  | cons c cs ih =>
    by_cases h : c.1 = key
    · simp [update, lookup_cons, h, Ne.symm hk]
    · simp [update, lookup_cons, h, ih]

theorem sizeOf_lookup (hx : lookup key cs = some x) : sizeOf x < sizeOf cs := by
  induction cs with
  | nil => simp [lookup] at hx
  | cons c cs ih =>
    obtain ⟨k, y⟩ := c
    rw [lookup_cons] at hx
    split at hx
    · cases hx
      simp
      omega
    · have := ih hx
      simp
      omega

/-- What holds of leaves, and of a manager if of its children, holds of all
    elements. -/
theorem induction_on_children {P : Element → Prop} (leaf : ∀ l, P (.leaf l))
    (manager : ∀ m cs, (∀ key x, lookup key cs = some x → P x) → P (.manager m cs)) : ∀ e, P e
  | .leaf l => leaf l
  | .manager m cs => manager m cs fun _ x _ => induction_on_children leaf manager x
termination_by e => sizeOf e
decreasing_by
  -- The measure of a list of children counts each of them.
  have := sizeOf_lookup ‹_›
  simp
  omega

@[simp] theorem children_updateChild :
    (updateChild f key x).children = update f key x.children := by
  cases x <;> rfl

@[simp] theorem part_updateChild : (updateChild f key x).part = x.part := by
  cases x <;> simp [updateChild, part]

@[simp] theorem children_mapManager {f : Manager → Manager} :
    (x.mapManager f).children = x.children := by
  cases x <;> rfl

@[simp] theorem part_mapManager {f : Manager → Manager} :
    (x.mapManager f).part = x.part.mapManager f := by
  cases x <;> rfl

@[simp] theorem children_mapLeaf {f : Leaf → Leaf} : (x.mapLeaf f).children = x.children := by
  cases x <;> rfl

@[simp] theorem part_mapLeaf {f : Leaf → Leaf} : (x.mapLeaf f).part = x.part.mapLeaf f := by
  cases x <;> rfl

/-! ### Addresses -/

/-- Nothing on the way to an address is below it. -/
theorem not_cons_suffix (h : b <:+ a) : ¬key :: a <:+ b :=
  fun h' => absurd (h'.trans h).length_le (by simp)

@[simp] theorem at?_nil : e.at? [] = some e := rfl

theorem at?_cons : e.at? (key :: a) = (e.at? a).bind fun x => lookup key x.children := rfl

/-- An address below another is found from the element there. -/
theorem at?_append (a b : Address) : e.at? (a ++ b) = (e.at? b).bind fun x => x.at? a := by
  induction a with
  | nil => simp
  | cons key a ih =>
    rw [List.cons_append, at?_cons, ih]
    cases e.at? b <;> rfl

/-- The first step down decides for the rest of an address. -/
theorem at?_concat (a : Address) :
    e.at? (a ++ [key]) = (lookup key e.children).bind fun x => x.at? a := by
  simp [at?_append, at?_cons]

theorem part?_nil : e.part? [] = some e.part := rfl

theorem part?_append (a b : Address) : e.part? (a ++ b) = (e.at? b).bind fun x => x.part? a := by
  unfold part?
  rw [at?_append]
  cases e.at? b <;> rfl

/-- A part at an address belongs to an element there. -/
theorem exists_at? {p : Part} (h : e.part? a = some p) : ∃ x, e.at? a = some x ∧ x.part = p :=
  Option.map_eq_some_iff.1 h

theorem at?_leaf {l : Leaf} (h : e.part? a = some (.leaf l)) : e.at? a = some (.leaf l) := by
  obtain ⟨x, hx, hp⟩ := exists_at? h
  cases x with
  | leaf l' => cases hp; exact hx
  | manager m cs => cases hp

theorem at?_manager {m : Manager} {keys : List String} (h : e.part? a = some (.manager m keys)) :
    ∃ cs, e.at? a = some (.manager m cs) ∧ cs.map Prod.fst = keys := by
  obtain ⟨x, hx, hp⟩ := exists_at? h
  cases x with
  | leaf l => cases hp
  | manager m' cs => cases hp; exact ⟨cs, hx, rfl⟩

/-- What stands at an address stands among the children of a manager. -/
theorem part?_cons_isSome_iff : (e.part? (key :: a)).isSome ↔
    ∃ m keys, e.part? a = some (.manager m keys) ∧ key ∈ keys := by
  rw [part?, at?_cons, part?]
  cases e.at? a with
  | none => simp
  | some x =>
    rw [Option.bind_some, Option.isSome_map, lookup_isSome_iff]
    cases x with
    | leaf l => simp [children, part]
    | manager m cs =>
      refine ⟨fun h => ⟨m, _, rfl, h⟩, ?_⟩
      rintro ⟨m', keys, hm, h⟩
      cases hm
      exact h

/-! ### Changes -/

/-- A change at an address is seen there. -/
theorem at?_modifyAt : (e.modifyAt f a).at? a = (e.at? a).map f := by
  induction a generalizing f with
  | nil => rfl
  | cons key a ih =>
    rw [modifyAt, at?_cons, ih, at?_cons]
    cases e.at? a with
    | none => rfl
    | some x => simp

theorem update_update {g : Element → Element} :
    update g key (update f key cs) = update (g ∘ f) key cs := by
  induction cs with
  | nil => rfl
  | cons c cs ih => by_cases h : c.1 = key <;> simp [update, h, ih]

/-- Two changes at one address are one. -/
theorem modifyAt_modifyAt {g : Element → Element} :
    (e.modifyAt f a).modifyAt g a = e.modifyAt (g ∘ f) a := by
  induction a generalizing f g with
  | nil => rfl
  | cons key a ih =>
    rw [modifyAt, modifyAt, ih, modifyAt]
    congr 1
    funext x
    cases x with
    | leaf l => rfl
    | manager m cs => simp [updateChild, update_update]

theorem update_congr {g : Element → Element} (hx : lookup key cs = some x) (hfg : f x = g x) :
    update f key cs = update g key cs := by
  induction cs with
  | nil => rfl
  | cons c cs ih =>
    rw [lookup_cons] at hx
    by_cases h : c.1 = key
    · rw [if_pos h] at hx
      cases hx
      simp [update, h, hfg]
    · rw [if_neg h] at hx
      simp [update, h, ih hx]

/-- A change is what it does to the element there. -/
theorem modifyAt_congr {g : Element → Element} (hx : e.at? a = some x) (hfg : f x = g x) :
    e.modifyAt f a = e.modifyAt g a := by
  induction a generalizing f g x with
  | nil => cases hx; exact hfg
  | cons key a ih =>
    rw [at?_cons] at hx
    obtain ⟨y, hy, hx⟩ := Option.bind_eq_some_iff.1 hx
    refine ih hy ?_
    cases y with
    | leaf l => rfl
    | manager m cs => exact congrArg (manager m) (update_congr hx hfg)

/-- A change is seen at and below its address through what it does there. -/
theorem part?_modifyAt_append (a b : Address) :
    (e.modifyAt f b).part? (a ++ b) = (e.at? b).bind fun x => (f x).part? a := by
  rw [part?_append, at?_modifyAt]
  cases e.at? b <;> rfl

/-- A change is not seen at an address that is neither its own nor below. -/
theorem part?_modifyAt_of_not_suffix (h : ¬a <:+ b) : (e.modifyAt f a).part? b = e.part? b := by
  induction a generalizing f with
  | nil => exact absurd (List.nil_suffix) h
  | cons key a ih =>
    rw [modifyAt]
    by_cases hb : a <:+ b
    · -- `b` is at or below the holder of the change, but below another child.
      obtain ⟨c, rfl⟩ := hb
      rw [part?_modifyAt_append, part?_append]
      congr 1
      funext x
      rcases List.eq_nil_or_concat c with rfl | ⟨c, k, rfl⟩
      · simp [part?_nil]
      · rw [List.concat_eq_append] at h ⊢
        have hk : k ≠ key := by
          rintro rfl
          exact h ⟨c, by simp⟩
        simp [part?, at?_concat, lookup_update_of_ne hk]
    · exact ih hb

/-- A change of an element's own fields is a change of the part at its address
    alone. -/
theorem part?_modifyAt (hc : ∀ x, (f x).children = x.children) (hp : ∀ x, (f x).part = g x.part) :
    (e.modifyAt f a).part? b = if b = a then (e.part? a).map g else e.part? b := by
  by_cases hb : a <:+ b
  · obtain ⟨c, rfl⟩ := hb
    rw [part?_modifyAt_append]
    rcases List.eq_nil_or_concat c with rfl | ⟨c, k, rfl⟩
    · cases h : e.at? a <;> simp [part?, h, hp]
    · have hne : c ++ [k] ++ a ≠ a := fun he => by
        have := congrArg List.length he
        simp at this
        omega
      rw [List.concat_eq_append, part?_append, if_neg hne]
      simp [part?, at?_concat, hc]
  · rw [part?_modifyAt_of_not_suffix hb, if_neg (by rintro rfl; exact hb List.suffix_rfl)]

theorem part?_mapManager {f : Manager → Manager} : (e.modifyAt (mapManager f) a).part? b =
    if b = a then (e.part? a).map (.mapManager f) else e.part? b :=
  part?_modifyAt (fun _ => children_mapManager) (fun _ => part_mapManager)

theorem part?_mapLeaf {f : Leaf → Leaf} : (e.modifyAt (mapLeaf f) a).part? b =
    if b = a then (e.part? a).map (.mapLeaf f) else e.part? b :=
  part?_modifyAt (fun _ => children_mapLeaf) (fun _ => part_mapLeaf)

end Element

end Parley

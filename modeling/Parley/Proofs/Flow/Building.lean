import Parley.Flow.Blueprint
import Parley.Proofs.Fallible
import Parley.Proofs.Flow.Course

/-!
# Built flows

What a blueprint builds is new (`Element.IsNew`): nothing is attached yet, all
cursors are at their roots, and no leaf is busy. Each part of it is what a
definition of the blueprint says (`Element.IsFrom`), and is called by its key.

The flow becomes ready for use when it is attached for the first time
(`IsNew.wired_attach`).
-/

namespace Parley

open Element

namespace Part

/-- The part is not in use yet. -/
def IsNew : Part → Prop
  | .leaf l => l.link = .free ∧ l.status = .idle
  | .manager m keys => m.link = .free ∧ m.root ∈ keys ∧ m.cursor = some m.root ∧
      m.awaiting = false ∧ m.finished = false

/-- The part is made from a definition of the blueprint. -/
def IsFrom (b : Blueprint) : Part → Prop
  | .leaf l => b.find? l.name = some (.leaf l.name l.decider l.output l.expectation)
  | .manager m keys => ∃ children description,
      b.find? m.name = some (.manager m.name children m.root m.decider description) ∧
        ∀ key, key ∈ keys ↔ key ∈ children

theorem isFrom_design {b : Blueprint} {p : Part} : p.design.IsFrom b ↔ p.IsFrom b := by
  cases p <;> rfl

theorem name_design (p : Part) : p.design.name = p.name := by
  cases p <;> rfl

end Part

namespace Element

variable {e x : Element} {key k name root : String} {cs children : List (String × Element)}
  {decider : Option Decider} {b : Blueprint} {a : Address} {p : Part} {m : Manager}

/-- No part of the flow is in use yet. -/
def IsNew (e : Element) : Prop :=
  ∀ ⦃a p⦄, e.part? a = some p → p.IsNew

/-- All parts of the flow are made from definitions of the blueprint, and those
    that are held are called by their keys. -/
structure IsFrom (b : Blueprint) (e : Element) : Prop where
  parts : ∀ ⦃a p⦄, e.part? a = some p → p.IsFrom b
  named : ∀ ⦃key a p⦄, e.part? (key :: a) = some p → p.name = key

/-- What a flow is made from depends on its design. -/
theorem IsFrom.of_sameDesign {e' : Element} (h : e.IsFrom b) (hs : SameDesign e e') :
    e'.IsFrom b where
  parts a p hp := by
    obtain ⟨q, hq, hd⟩ := hs.symm.exists_part hp
    have hfrom := h.parts hq
    rw [← Part.isFrom_design, hd, Part.isFrom_design] at hfrom
    exact hfrom
  named key a p hp := by
    obtain ⟨q, hq, hd⟩ := hs.symm.exists_part hp
    rw [← p.name_design, ← hd, q.name_design]
    exact h.named hq

/-! ### Children given by key -/

theorem lookup_append : lookup key (cs ++ [(k, x)]) =
    (lookup key cs).or (if k = key then some x else none) := by
  induction cs with
  | nil => by_cases h : k = key <;> simp [lookup, h]
  | cons c cs ih =>
    rw [List.cons_append, lookup_cons, lookup_cons, ih]
    split <;> rfl

theorem any_eq_isSome : (cs.any fun c => c.1 = key) = (lookup key cs).isSome := by
  induction cs with
  | nil => rfl
  | cons c cs ih =>
    rw [List.any_cons, ih, lookup_cons]
    by_cases h : c.1 = key <;> simp [h]

/-- Of two children with one key the later one stays. -/
theorem lookup_put : lookup key (put k x cs) = if k = key then some x else lookup key cs := by
  unfold put
  rw [any_eq_isSome]
  cases h : lookup k cs with
  | none =>
    -- A key that is not taken goes to the end.
    rw [if_neg (by simp), lookup_append]
    split
    · subst k
      rw [h]
      rfl
    · simp
  | some y =>
    rw [Option.isSome_some, if_pos rfl]
    split
    · subst k
      rw [lookup_update_self, h]
      rfl
    · exact lookup_update_of_ne (Ne.symm ‹_›)

theorem lookup_foldl_put {cs : List (String × Element)} (h : lookup key
    (children.foldl (fun acc c => put c.1 c.2 acc) cs) = some x) :
    (key, x) ∈ children ∨ lookup key cs = some x := by
  induction children generalizing cs with
  | nil => exact .inr h
  | cons c children ih =>
    rcases ih h with h | h
    · exact .inl (List.mem_cons_of_mem c h)
    · rw [lookup_put] at h
      split at h
      · cases h
        subst key
        exact .inl List.mem_cons_self
      · exact .inr h

theorem isSome_lookup_foldl_put {cs : List (String × Element)} :
    (lookup key (children.foldl (fun acc c => put c.1 c.2 acc) cs)).isSome ↔
      key ∈ children.map Prod.fst ∨ (lookup key cs).isSome := by
  induction children generalizing cs with
  | nil => simp
  | cons c children ih =>
    rw [List.foldl_cons, ih, lookup_put, List.map_cons, List.mem_cons]
    by_cases h : c.1 = key
    · simp [h]
    · simp [h, Ne.symm h]

/-- A manager over children given by key holds the keys given, at each a child
    given for it. -/
theorem ofChildren_ok (h : ofChildren name children root decider = .ok e) :
    ∃ cs, e = manager (.idle name root decider) cs ∧ root ∈ cs.map Prod.fst ∧
      (∀ key, key ∈ cs.map Prod.fst ↔ key ∈ children.map Prod.fst) ∧
      ∀ key x, lookup key cs = some x → (key, x) ∈ children := by
  unfold ofChildren at h
  simp only [any_eq_isSome] at h
  split at h
  · cases h
  · split at h
    · cases h
      refine ⟨_, rfl, lookup_isSome_iff.1 ‹_›, fun key => ?_, fun key x hx => ?_⟩
      · rw [← lookup_isSome_iff, isSome_lookup_foldl_put]
        simp [lookup]
      · exact (lookup_foldl_put hx).resolve_right (by simp [lookup])
    · cases h

/-- Below a leaf there is nothing. -/
theorem part?_leaf_eq_some {l : Leaf} (h : (leaf l).part? a = some p) : a = [] ∧ p = .leaf l := by
  rcases List.eq_nil_or_concat a with rfl | ⟨c, key, rfl⟩
  · cases h
    exact ⟨rfl, rfl⟩
  · simp [part?, at?_concat, children, lookup] at h

/-- What is at an address below a manager is so below one of its children. -/
theorem part?_manager_cases (h : (manager m cs).part? a = some p) :
    (a = [] ∧ p = .manager m (cs.map Prod.fst)) ∨
      ∃ key x c, a = c ++ [key] ∧ lookup key cs = some x ∧ x.part? c = some p := by
  rcases List.eq_nil_or_concat a with rfl | ⟨c, key, rfl⟩
  · cases h
    exact .inl ⟨rfl, rfl⟩
  · rw [List.concat_eq_append] at h ⊢
    rw [part?_concat] at h
    obtain ⟨x, hx, hp⟩ := Option.bind_eq_some_iff.1 h
    exact .inr ⟨key, x, c, rfl, hx, hp⟩

theorem isNew_leaf {l : Leaf} (h : (Part.leaf l).IsNew) : (leaf l).IsNew := by
  intro a p hp
  obtain ⟨-, rfl⟩ := part?_leaf_eq_some hp
  exact h

theorem isNew_manager (h : (Part.manager m (cs.map Prod.fst)).IsNew)
    (hcs : ∀ {key x}, lookup key cs = some x → x.IsNew) : (manager m cs).IsNew := by
  intro a p hp
  rcases part?_manager_cases hp with ⟨-, rfl⟩ | ⟨key, x, c, -, hx, hp⟩
  · exact h
  · exact hcs hx hp

theorem isFrom_leaf {l : Leaf} (h : (Part.leaf l).IsFrom b) : (leaf l).IsFrom b where
  parts a p hp := by
    obtain ⟨-, rfl⟩ := part?_leaf_eq_some hp
    exact h
  named key a p hp := by cases (part?_leaf_eq_some hp).1

theorem isFrom_manager (h : (Part.manager m (cs.map Prod.fst)).IsFrom b)
    (hcs : ∀ {key x}, lookup key cs = some x → x.IsFrom b ∧ x.name = key) :
    (manager m cs).IsFrom b where
  parts a p hp := by
    rcases part?_manager_cases hp with ⟨-, rfl⟩ | ⟨key, x, c, -, hx, hp⟩
    · exact h
    · exact (hcs hx).1.parts hp
  named key a p hp := by
    rcases part?_manager_cases hp with ⟨hnil, -⟩ | ⟨k, x, c, hc, hx, hq⟩
    · cases hnil
    · cases c with
      | nil =>
        cases hc
        cases hq
        rw [← (hcs hx).2]
        cases x <;> rfl
      | cons k' c =>
        cases hc
        exact (hcs hx).1.named hq

/-! ### Attaching for the first time -/

namespace IsNew

variable {keys : List String} {link : Link}

theorem isAimed (h : e.IsNew) : e.IsAimed :=
  fun _ _ _ hp => ⟨_, (h hp).2.1, (h hp).2.2.1⟩

/-- The state and the front end do not matter to what is new. -/
theorem furnish (h : e.IsNew) (frontEnd : Option FrontEnd) (state : Mapping) :
    (e.mapManager fun m => { m with frontEnd := frontEnd, state := state }).IsNew := by
  intro a p hp
  rw [part?_mapManager_top] at hp
  split at hp
  · obtain ⟨q, hq, rfl⟩ := Option.map_eq_some_iff.1 hp
    have hnew := h hq
    cases q with
    | leaf l => exact hnew
    | manager m keys => exact hnew
  · exact h hp

/-- What has been attached was new before. -/
theorem exists_of_attach (h : e.IsNew) (hp : (e.attach link).1.part? a = some p) :
    ∃ q, q.IsNew ∧ (p = q ∨ ∃ link, p = q.attached link) := by
  obtain ⟨f, hf, hcases⟩ := part?_attach_eq_map link (e := e) a
  rw [hf] at hp
  obtain ⟨q, hq, rfl⟩ := Option.map_eq_some_iff.1 hp
  refine ⟨q, h hq, ?_⟩
  rcases hcases with rfl | ⟨link', rfl⟩
  · exact .inl rfl
  · exact .inr ⟨link', rfl⟩

/-- Attaching leaves the cursors at the roots. -/
theorem manager_attach (h : e.IsNew)
    (hp : (e.attach link).1.part? a = some (.manager m keys)) :
    m.root ∈ keys ∧ m.cursor = some m.root ∧ m.awaiting = false ∧ m.finished = false := by
  obtain ⟨q, hq, rfl | ⟨link', hq'⟩⟩ := h.exists_of_attach hp
  · exact hq.2
  · cases q with
    | leaf l => cases hq'
    | manager m' keys' => cases hq'; exact hq.2

theorem isCalm_attach (h : e.IsNew) : (e.attach link).1.IsCalm := by
  intro a l hp hb
  obtain ⟨q, hq, rfl | ⟨link', hq'⟩⟩ := h.exists_of_attach hp
  · simp [Leaf.IsBusy, hq.2] at hb
  · cases q with
    | leaf l' => cases hq'; simp [Leaf.IsBusy] at hb
    | manager m keys => cases hq'

/-- A new flow is wired once it has been attached. -/
theorem wired_attach (h : e.IsNew) (hm : e.part? [] = some (.manager m keys)) :
    (e.attach .free).1.Wired where
  outermost := by
    rw [part?_attach_nil, hm]
    exact ⟨_, _, rfl, rfl⟩
  aimed _ _ _ hp := by
    obtain ⟨hr, hc, -⟩ := h.manager_attach hp
    exact ⟨_, hr, hc⟩
  rooted _ _ _ hp := (h.manager_attach hp).1
  attached a m' keys' key p hp ha hk hc := by
    have hcur : m'.cursor = some key := hk.elim id fun hr => hr ▸ (h.manager_attach hp).2.1
    -- What has been attached is on the way along the cursors, and so is the
    -- child at its cursor.
    have hact : e.IsActive a := by
      by_contra hn
      rw [part?_attach_of_not_isActive hn] at hp
      rcases ha with rfl | hl
      · exact hn isActive_nil
      · cases (h hp).1.symm.trans hl
    have hact' : e.IsActive (key :: a) :=
      isActive_attach.1 ⟨isActive_attach.2 hact, m', keys', hp, hcur⟩
    rw [part?_attach hact' (List.cons_ne_nil key a)] at hc
    obtain ⟨q, -, rfl⟩ := Option.map_eq_some_iff.1 hc
    cases q <;> rfl
  rewound _ _ _ hp _ := (h.manager_attach hp).2.1

/-- A new flow that has been attached can be executed. -/
theorem inFlight_attach (h : e.IsNew) (hm : e.part? [] = some (.manager m keys)) :
    InFlight (e.attach .free).1 (.execute []) := by
  have hw := h.wired_attach hm
  obtain ⟨m', keys', hm', -⟩ := hw.outermost
  have hse := session_eq hm'
  obtain ⟨-, -, ha, hf⟩ := h.manager_attach hm'
  exact ⟨InUse.top hw, ⟨hse ▸ ha, hse ▸ hf⟩, nofun, h.isCalm_attach⟩

end IsNew

end Element

namespace Blueprint

variable {b : Blueprint} {e : Element} {name : String} {n : Nat} {d : Definition}

theorem find?_of_get (h : b.get name = .ok d) : b.find? name = some d ∧ d.name = name := by
  unfold get at h
  cases hf : b.find? name with
  | none => rw [hf] at h; cases h
  | some d' =>
    rw [hf] at h
    cases h
    exact ⟨rfl, by simpa using List.find?_some hf⟩

theorem unfold_children {f : String → Except Fault Element} {names : List String}
    {cs : List (String × Element)}
    (h : (names.mapM fun child => do pure (child, ← f child)) = .ok cs) :
    cs.map Prod.fst = names ∧ ∀ c ∈ cs, f c.1 = .ok c.2 := by
  induction names generalizing cs with
  | nil =>
    cases h
    simp
  | cons child names ih =>
    rw [List.mapM_cons] at h
    obtain ⟨c, hc, h⟩ := ok_of_bind h
    obtain ⟨cs', hcs, h⟩ := ok_of_bind h
    obtain ⟨x, hx, hc⟩ := ok_of_bind hc
    cases h
    cases hc
    obtain ⟨hmap, hall⟩ := ih hcs
    refine ⟨by rw [List.map_cons, hmap], fun c hc => ?_⟩
    rcases List.mem_cons.1 hc with rfl | hc
    · exact hx
    · exact hall c hc

/-- What is unfolded is new, made from the blueprint and called by its name. -/
theorem unfold_ok (h : b.unfold n name = .ok e) : e.IsNew ∧ e.IsFrom b ∧ e.name = name := by
  induction n generalizing name e with
  | zero => cases h
  | succ n ih =>
    rw [unfold] at h
    obtain ⟨d, hd, h⟩ := ok_of_bind h
    obtain ⟨hf, hname⟩ := find?_of_get hd
    cases d with
    | leaf name' decider output expectation =>
      cases h
      obtain rfl : name' = name := hname
      exact ⟨isNew_leaf ⟨rfl, rfl⟩, isFrom_leaf hf, rfl⟩
    | manager name' children root decider description =>
      obtain ⟨cs', hcs, h⟩ := ok_of_bind h
      obtain ⟨hmap, hall⟩ := unfold_children hcs
      obtain ⟨cs, rfl, hroot, hkeys, hlookup⟩ := ofChildren_ok h
      rw [hmap] at hkeys
      -- Each child has been unfolded from its name, with one level less.
      have hchild {key : String} {x : Element} (hx : lookup key cs = some x) :
          x.IsNew ∧ x.IsFrom b ∧ x.name = key :=
        ih (hall _ (hlookup key x hx))
      obtain rfl : name' = name := hname
      exact ⟨isNew_manager ⟨rfl, hroot, rfl, rfl, rfl⟩ fun hx => (hchild hx).1,
        isFrom_manager ⟨children, description, hf, hkeys⟩ fun hx => (hchild hx).2, rfl⟩

/-- A built flow is new and made from the blueprint. -/
theorem build_ok {root : String} {frontEnd : Option FrontEnd} (h : b.build root frontEnd = .ok e) :
    e.IsNew ∧ e.IsFrom b ∧ ∃ m cs, e = .manager m cs ∧ m.name = root := by
  obtain ⟨_, hv, h⟩ := ok_of_bind h
  obtain ⟨e', he, h⟩ := ok_of_bind h
  cases h
  obtain ⟨hnew, hfrom, hname⟩ := unfold_ok he
  cases e' with
  | manager m cs =>
    have hfurnish : furnish frontEnd (.manager m cs) = (Element.manager m cs).mapManager fun m' =>
      { m' with frontEnd := frontEnd, state := m.state } := rfl
    rw [hfurnish]
    have hsame := (sameSkeleton_furnish frontEnd m.state (e := .manager m cs)).sameDesign
    exact ⟨hnew.furnish _ _, hfrom.of_sameDesign hsame.symm, _, _, rfl, hname⟩
  | leaf l =>
    -- The root has been found to be a manager, and is called by its name.
    obtain ⟨d, hd, hv⟩ := ok_of_bind hv
    obtain ⟨hf, hdname⟩ := find?_of_get hd
    cases d with
    | leaf => cases hv
    | manager =>
      have hl : b.find? l.name = _ := hfrom.parts (a := []) rfl
      rw [show l.name = root from hname, hf] at hl
      cases hl

/-- A manager over one leaf, which asks a question and then finishes. -/
def single : Blueprint :=
  ⟨[.leaf "ask" { reply := fun _ _ => .ok .nothing } none (some ⟨some (.text "Well?"), .identity⟩),
    .manager "main" ["ask"] "ask" none ""]⟩

end Blueprint

end Parley

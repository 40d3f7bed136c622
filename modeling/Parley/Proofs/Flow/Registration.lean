import Parley.Proofs.Flow.Building

/-!
# Blueprints that grow

A definition under a fresh name changes nothing that has been there: each name keeps
its definition (`Blueprint.find?_register`), what has been found valid stays so
(`Blueprint.check_register`), and what has been unfolded is unfolded in the same way
(`Blueprint.unfold_register`). What is found valid can be built
(`Blueprint.exists_unfold_of_check`).

So a valid flow can be given a frame: the blueprint then builds the flow below a
manager that holds nothing else (`Blueprint.build_frame`).
-/

namespace Parley

open Element

/-- A manager can be made of children that have its root among them. -/
theorem Element.exists_ofChildren {root : String} {children : List (String × Element)}
    (name : String) (decider : Option Decider) (h : root ∈ children.map Prod.fst) :
    ∃ e, ofChildren name children root decider = .ok e := by
  have hroot : (lookup root (children.foldl (fun acc c => put c.1 c.2 acc) [])).isSome :=
    isSome_lookup_foldl_put.2 (.inl h)
  unfold ofChildren
  simp only [any_eq_isSome, hroot, if_true]
  split
  · -- Where the root is there are children.
    rename_i hempty
    rw [List.isEmpty_iff.1 hempty] at hroot
    simp [lookup] at hroot
  · exact ⟨_, rfl⟩

/-- Children can be unfolded if each of them can. -/
theorem exists_children {f : String → Except Fault Element} {names : List String}
    (h : ∀ name ∈ names, ∃ e, f name = .ok e) :
    ∃ cs, (names.mapM fun child => do pure (child, ← f child)) = .ok cs := by
  induction names with
  | nil => exact ⟨[], rfl⟩
  | cons name names ih =>
    obtain ⟨e, he⟩ := h name List.mem_cons_self
    obtain ⟨cs, hcs⟩ := ih fun child hchild => h child (List.mem_cons_of_mem name hchild)
    refine ⟨(name, e) :: cs, ?_⟩
    rw [List.mapM_cons, hcs, he]
    rfl

theorem children_congr {f g : String → Except Fault Element} {names : List String}
    {cs : List (String × Element)} (hfg : ∀ name e, f name = .ok e → g name = .ok e)
    (h : (names.mapM fun child => do pure (child, ← f child)) = .ok cs) :
    (names.mapM fun child => do pure (child, ← g child)) = .ok cs := by
  induction names generalizing cs with
  | nil => exact h
  | cons name names ih =>
    rw [List.mapM_cons] at h ⊢
    obtain ⟨c, hc, h⟩ := ok_of_bind h
    obtain ⟨cs', hcs, h⟩ := ok_of_bind h
    obtain ⟨e, he, hc⟩ := ok_of_bind hc
    rw [hfg name e he, ih hcs]
    cases hc
    exact h

namespace Blueprint

variable {b b' : Blueprint} {d d' : Definition} {name root : String} {above : List String} {n : Nat}
  {e : Element}

/-! ### What is found valid -/

/-- What the check of a definition establishes: a manager has children, its root among
    them, which are checked in turn. -/
def Checks (b : Blueprint) (n : Nat) (above : List String) : Definition → Prop
  | .leaf .. => True
  | .manager _ children root _ _ => children ≠ [] ∧ root ∈ children ∧
      ∀ child ∈ children, b.check n above child = .ok ()

/-- A name that is checked is defined, and not above itself. -/
theorem check_succ_iff : b.check (n + 1) above name = .ok () ↔
    name ∉ above ∧ ∃ d, b.get name = .ok d ∧ b.Checks n (above ++ [name]) d := by
  rw [check]
  by_cases ha : name ∈ above
  · rw [if_pos (List.contains_iff_mem.2 ha)]
    refine iff_of_false ?_ fun h => h.1 ha
    intro h
    cases h
  · rw [if_neg (mt List.contains_iff_mem.1 ha)]
    cases hd : b.get name with
    | error cause =>
      constructor
      · intro h
        cases h
      · rintro ⟨-, d, hd', -⟩
        cases hd'
    | ok d =>
      simp only [ha, not_false_eq_true, true_and, Except.ok.injEq, exists_eq_left']
      cases d with
      | leaf => exact iff_of_true rfl trivial
      | manager name' children root decider description =>
        rw [Checks, ← forM_eq_ok_iff]
        -- A manager needs children, and its root among them; then the children are checked.
        by_cases hc : children = []
        · subst hc
          refine iff_of_false ?_ fun h => h.1 rfl
          intro h
          cases h
        · have hc' : children.isEmpty = false := by simpa using hc
          by_cases hr : root ∈ children
          · simp [bind, Except.bind, hc', hc, hr]
          · simp [bind, Except.bind, hc', hr, throw, throwThe, MonadExceptOf.throw]

/-- What is found valid can be unfolded. -/
theorem exists_unfold_of_check (h : b.check n above name = .ok ()) :
    ∃ e, b.unfold n name = .ok e := by
  induction n generalizing above name with
  | zero => cases h
  | succ n ih =>
    obtain ⟨-, d, hd, hchecks⟩ := check_succ_iff.1 h
    rw [unfold, hd]
    cases d with
    | leaf => exact ⟨_, rfl⟩
    | manager name' children root decider description =>
      obtain ⟨-, hroot, hall⟩ := hchecks
      obtain ⟨cs, hcs⟩ := exists_children fun child hchild => ih (hall child hchild)
      rw [← (unfold_children hcs).1] at hroot
      obtain ⟨e, he⟩ := exists_ofChildren name' decider hroot
      refine ⟨e, ?_⟩
      rw [← he]
      simp only [bind, Except.bind] at hcs ⊢
      rw [hcs]

/-! ### A fresh definition -/

theorem find?_register (h : b.register d = .ok b') (name : String) : b.find? d.name = none ∧
    b'.find? name = (b.find? name).or (if d.name = name then some d else none) := by
  unfold register at h
  split at h
  · cases h
  · cases h
    have hfree : ∀ d' ∈ b.definitions, d'.name ≠ d.name := by
      simpa [contains, names] using ‹¬b.contains d.name = true›
    refine ⟨?_, ?_⟩
    · exact List.find?_eq_none.2 fun d' hd' => by simpa using hfree d' hd'
    · rw [find?, List.find?_append]
      by_cases hd : d.name = name <;> simp [find?, hd]

/-- What is defined is not called by the fresh name, and keeps its definition. -/
theorem get_register (h : b.register d = .ok b') (hg : b.get name = .ok d') :
    name ≠ d.name ∧ b'.get name = .ok d' := by
  obtain ⟨hfree, hfind⟩ := find?_register h name
  obtain ⟨hd', -⟩ := find?_of_get hg
  refine ⟨?_, ?_⟩
  · rintro rfl
    rw [hfree] at hd'
    cases hd'
  · rw [get, hfind, hd']
    rfl

/-- The fresh name stands for the new definition. -/
theorem get_new (h : b.register d = .ok b') : b'.get d.name = .ok d := by
  obtain ⟨hfree, hfind⟩ := find?_register h d.name
  rw [get, hfind, hfree]
  simp

theorem length_register (h : b.register d = .ok b') :
    b'.definitions.length = b.definitions.length + 1 := by
  unfold register at h
  split at h
  · cases h
  · cases h
    simp

/-- What has been found valid stays so, also below the fresh name. -/
theorem check_register (h : b.register d = .ok b') (hc : b.check n above name = .ok ()) :
    b'.check n (d.name :: above) name = .ok () := by
  induction n generalizing above name with
  | zero => cases hc
  | succ n ih =>
    obtain ⟨ha, d', hd', hchecks⟩ := check_succ_iff.1 hc
    obtain ⟨hne, hg⟩ := get_register h hd'
    refine check_succ_iff.2 ⟨?_, d', hg, ?_⟩
    · exact fun hmem => (List.mem_cons.1 hmem).elim hne ha
    · cases d' with
      | leaf => trivial
      | manager name' children root decider description =>
        obtain ⟨hne', hroot, hall⟩ := hchecks
        exact ⟨hne', hroot, fun child hchild => ih (hall child hchild)⟩

/-- What has been unfolded is unfolded in the same way. -/
theorem unfold_register (h : b.register d = .ok b') (he : b.unfold n name = .ok e) :
    b'.unfold n name = .ok e := by
  induction n generalizing name e with
  | zero => cases he
  | succ n ih =>
    rw [unfold] at he ⊢
    obtain ⟨d', hd', he⟩ := ok_of_bind he
    rw [(get_register h hd').2]
    cases d' with
    | leaf => exact he
    | manager name' children root decider description =>
      obtain ⟨cs, hcs, he⟩ := ok_of_bind he
      have hcs' := children_congr (fun child e => ih) hcs
      simp only [bind, Except.bind] at hcs' ⊢
      rw [hcs']
      exact he

/-! ### Frames -/

/-- A valid flow is a manager's. -/
theorem check_of_validate (h : b.validate root = .ok ()) :
    b.check (b.definitions.length + 1) [] root = .ok () := by
  obtain ⟨d, hd, h⟩ := ok_of_bind h
  cases d with
  | leaf => cases h
  | manager => exact h

theorem build_of_unfold (hv : b.validate root = .ok ())
    (he : b.unfold (b.definitions.length + 1) root = .ok e) (frontEnd : Option FrontEnd) :
    b.build root frontEnd = .ok (furnish frontEnd e) := by
  rw [build, hv, he]
  rfl

variable {frame flow description : String}

/-- A frame around a valid flow is valid. -/
theorem validate_frame (h : b.register (.manager frame [flow] flow none description) = .ok b')
    (hv : b.validate flow = .ok ()) : b'.validate frame = .ok () := by
  have hc : b'.check (b'.definitions.length + 1) [] frame = .ok () := by
    refine check_succ_iff.2 ⟨List.not_mem_nil, _, get_new h, List.cons_ne_nil _ _,
      List.mem_singleton_self flow, fun child hchild => ?_⟩
    rw [List.mem_singleton.1 hchild, length_register h]
    exact check_register h (check_of_validate hv)
  rw [validate, show b'.get frame = _ from get_new h]
  exact hc

/-- It is built as a manager that holds the flow. -/
theorem unfold_frame (h : b.register (.manager frame [flow] flow none description) = .ok b')
    (he : b.unfold (b.definitions.length + 1) flow = .ok e) :
    b'.unfold (b'.definitions.length + 1) frame =
      .ok (.manager (.idle frame flow none) [(flow, e)]) := by
  have he' := unfold_register h he
  rw [← length_register h] at he'
  rw [unfold, show b'.get frame = _ from get_new h]
  simp only [bind, Except.bind, List.mapM_cons, List.mapM_nil, he', pure, Except.pure]
  simp [ofChildren, put]

/-- A valid flow is built, and so is a frame around it. -/
theorem build_frame (h : b.register (.manager frame [flow] flow none description) = .ok b')
    (hv : b.validate flow = .ok ()) (frontEnd : Option FrontEnd) : ∃ m cs,
      b.unfold (b.definitions.length + 1) flow = .ok (.manager m cs) ∧
      b.build flow frontEnd = .ok (.manager { m with frontEnd := frontEnd } cs) ∧
      b'.build frame frontEnd = .ok (.manager { Manager.idle frame flow none with
        frontEnd := frontEnd } [(flow, .manager m cs)]) := by
  obtain ⟨e, he⟩ := exists_unfold_of_check (check_of_validate hv)
  have hbuild := build_of_unfold hv he frontEnd
  have hframe := build_of_unfold (validate_frame h hv) (unfold_frame h he) frontEnd
  cases e with
  | manager m cs => exact ⟨m, cs, he, hbuild, hframe⟩
  | leaf l =>
    obtain ⟨-, -, m, cs, hleaf, -⟩ := build_ok hbuild
    cases hleaf

end Blueprint

end Parley

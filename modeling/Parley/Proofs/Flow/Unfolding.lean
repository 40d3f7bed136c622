import Parley.Proofs.Flow.Validation

/-!
# The unfolding of a blueprint

What a name stands for is said by its definition and by those that are reached from it
(`Blueprint.Unfolds`): a leaf is made as it is defined, and a manager holds what the names of
its children stand for, each name once and in the order of their first mention. A name stands
for one element at most (`Unfolds.unique`), and for the same one wherever the definitions that
are reached from it are the same (`Unfolds.of_agree`).

* `unfold_unfolds`: what a blueprint unfolds a name to is what the name stands for;
* `Unfolds.rootChain`: the active path of that goes from root to root down to a leaf;
* `check_congr`, `validate_congr`: what is found out about a name depends on the definitions
  that are reached from it, and so does what is built (`build_congr`).

The depth that an unfolding is allowed grows with the number of definitions, those included
that are never reached. So two blueprints are compared at one depth, at which either of them
finds what it finds at its own (`check_add`).
-/

namespace Parley

open Relation

namespace Element

variable {c : String × Element} {cs children : List (String × Element)} {key root name : String}
  {x e : Element} {decider : Option Decider}

/-! ### The children of a new manager -/

theorem mem_of_lookup (h : lookup key cs = some x) : (key, x) ∈ cs := by
  obtain ⟨c, hc, rfl⟩ := Option.map_eq_some_iff.1 h
  obtain rfl : c.1 = key := by simpa using List.find?_some hc
  exact List.mem_of_find?_eq_some hc

theorem mem_update_const (h : c ∈ update (fun _ => x) key cs) : c = (key, x) ∨ c ∈ cs := by
  induction cs with
  | nil => exact .inr h
  | cons c' cs ih =>
    rw [update] at h
    split at h
    · subst key
      exact (List.mem_cons.1 h).imp id (List.mem_cons_of_mem c')
    · rcases List.mem_cons.1 h with rfl | h
      · exact .inr List.mem_cons_self
      · exact (ih h).imp id (List.mem_cons_of_mem c')

theorem mem_put (h : c ∈ put key x cs) : c = (key, x) ∨ c ∈ cs := by
  unfold put at h
  split at h
  · exact mem_update_const h
  · simpa [or_comm] using h

/-- A key that is taken keeps its place, and another one comes after those that are. -/
theorem map_fst_put : (put key x cs).map Prod.fst =
    if key ∈ cs.map Prod.fst then cs.map Prod.fst else cs.map Prod.fst ++ [key] := by
  unfold put
  rw [any_eq_isSome]
  simp only [lookup_isSome_iff]
  split
  · exact map_fst_update
  · simp

theorem mem_foldl_put (h : c ∈ children.foldl (fun acc c => put c.1 c.2 acc) []) :
    c ∈ children := by
  induction children using List.reverseRecOn with
  | nil => exact h
  | append_singleton children last ih =>
    rw [List.foldl_append] at h
    rcases mem_put h with rfl | h
    · simp
    · exact List.mem_append_left _ (ih h)

/-- Children given by key are held in the order in which their keys occur first. -/
theorem map_fst_foldl_put : (children.foldl (fun acc c => put c.1 c.2 acc) []).map Prod.fst =
    (children.map Prod.fst).eraseDups := by
  induction children using List.reverseRecOn with
  | nil => rfl
  | append_singleton children last ih =>
    rw [List.foldl_append, List.map_append, List.eraseDups_append]
    simp only [List.foldl_cons, List.foldl_nil, List.map_cons, List.map_nil, map_fst_put, ih,
      List.mem_eraseDups]
    -- The last key is there already, or it is left when those before it are removed.
    by_cases h : last.1 ∈ children.map Prod.fst
    · rw [if_pos h]
      simp [List.removeAll, h]
    · have hlast : [last.1].removeAll (children.map Prod.fst) = [last.1] := by
        simp [List.removeAll, h]
      rw [if_neg h, hlast]
      rfl

theorem ofChildren_eq (h : ofChildren name children root decider = .ok e) :
    e = manager (.idle name root decider) (children.foldl (fun acc c => put c.1 c.2 acc) []) := by
  unfold ofChildren at h
  simp only at h
  split at h
  · cases h
  · split at h
    · cases h
      rfl
    · cases h

/-- Children with the same keys are the same if each key has one child in both. -/
theorem children_ext {cs' : List (String × Element)} (hkeys : cs.map Prod.fst = cs'.map Prod.fst)
    (h : ∀ c ∈ cs, ∀ x, (c.1, x) ∈ cs' → c.2 = x) : cs = cs' := by
  induction cs generalizing cs' with
  | nil => simpa using hkeys
  | cons c cs ih =>
    cases cs' with
    | nil => simp at hkeys
    | cons c' cs' =>
      obtain ⟨hkey, hkeys⟩ : c.1 = c'.1 ∧ cs.map Prod.fst = cs'.map Prod.fst := by
        simpa using hkeys
      have hx : c.2 = c'.2 := by
        refine h c List.mem_cons_self c'.2 ?_
        rw [hkey]
        exact List.mem_cons_self
      rw [Prod.ext hkey hx, ih hkeys fun d hd x hmem =>
        h d (List.mem_cons_of_mem c hd) x (List.mem_cons_of_mem c' hmem)]

end Element

namespace Blueprint

variable {b b' : Blueprint} {n : Nat} {above path : List String} {name root : String}
  {e e' : Element}

/-! ### What a name stands for -/

/-- The name stands for the element: all of it is as it is defined, with all cursors at their
    roots and nothing attached or busy. -/
inductive Unfolds (b : Blueprint) : String → Element → Prop
  | leaf {name : String} {decider : Decider} {output expectation : Option Emitter} :
      b.find? name = some (.leaf name decider output expectation) →
      Unfolds b name (.leaf (.idle name decider output expectation))
  | manager {name root description : String} {children : List String} {decider : Option Decider}
      {cs : List (String × Element)} :
      b.find? name = some (.manager name children root decider description) → root ∈ children →
      cs.map Prod.fst = children.eraseDups → (∀ c ∈ cs, Unfolds b c.1 c.2) →
      Unfolds b name (.manager (.idle name root decider) cs)

/-- The names lead from one below the manager of a name down to a leaf, each of them the root
    of the manager before. -/
inductive RootChain (b : Blueprint) : String → List String → Prop
  | leaf {name : String} {decider : Decider} {output expectation : Option Emitter} :
      b.find? name = some (.leaf name decider output expectation) → RootChain b name []
  | manager {name root description : String} {children path : List String}
      {decider : Option Decider} :
      b.find? name = some (.manager name children root decider description) →
      RootChain b root path → RootChain b name (root :: path)

/-- The blueprints define all that is reached from a name in the same way. -/
def AgreesBelow (b b' : Blueprint) (name : String) : Prop :=
  ∀ x, b.Reaches name x → b'.find? x = b.find? x

theorem AgreesBelow.child (h : b.AgreesBelow b' name) {child : String} (hc : b.Lists name child) :
    b.AgreesBelow b' child :=
  fun x hx => h x (.head hc hx)

/-- A name stands for one element at most. -/
theorem Unfolds.unique (h : b.Unfolds name e) (h' : b.Unfolds name e') : e = e' := by
  induction h generalizing e' with
  | leaf hd =>
    cases h' with
    | leaf hd' => cases hd.symm.trans hd'; rfl
    | manager hd' => cases hd.symm.trans hd'
  | manager hd _ hkeys _ ih =>
    cases h' with
    | leaf hd' => cases hd.symm.trans hd'
    | manager hd' _ hkeys' hcs' =>
      cases hd.symm.trans hd'
      rw [Element.children_ext (hkeys.trans hkeys'.symm) fun c hc x hx => ih c hc (hcs' _ hx)]

/-- What a name stands for is decided by what is reached from it. -/
theorem Unfolds.of_agree (h : b.Unfolds name e) (ha : b.AgreesBelow b' name) :
    b'.Unfolds name e := by
  induction h with
  | leaf hd => exact .leaf ((ha _ .refl).trans hd)
  | @manager name root description children decider cs hd hroot hkeys _ ih =>
    refine .manager ((ha _ .refl).trans hd) hroot hkeys fun c hc => ?_
    have hmem : c.1 ∈ children := by
      rw [← List.mem_eraseDups, ← hkeys]
      exact List.mem_map_of_mem hc
    exact ih c hc (ha.child ⟨_, hd, hmem⟩)

/-- The active path goes from root to root. -/
theorem Unfolds.rootChain (h : b.Unfolds name e) : b.RootChain name e.activePath := by
  induction h with
  | leaf hd => exact .leaf hd
  | @manager name root description children decider cs hd hroot hkeys _ ih =>
    have hmem : root ∈ cs.map Prod.fst := by
      rw [hkeys]
      exact List.mem_eraseDups.2 hroot
    obtain ⟨x, hx⟩ := Element.exists_lookup hmem
    have hpath : (Element.manager (.idle name root decider) cs).activePath =
        root :: x.activePath := by
      simp [Element.activePath, Manager.idle, Element.activeBelow_eq, hx]
    rw [hpath]
    exact .manager hd (ih _ (Element.mem_of_lookup hx))

/-! ### Unfolding -/

/-- A name is unfolded to what it stands for. -/
theorem unfold_unfolds (h : b.unfold n name = .ok e) : b.Unfolds name e := by
  induction n generalizing name e with
  | zero => cases h
  | succ n ih =>
    rw [unfold] at h
    obtain ⟨d, hd, h⟩ := ok_of_bind h
    obtain ⟨hf, hname⟩ := find?_of_get hd
    cases d with
    | leaf name' =>
      cases h
      obtain rfl : name' = name := hname
      exact .leaf hf
    | manager name' children root decider description =>
      obtain ⟨cs, hcs, hmade⟩ := ok_of_bind h
      obtain ⟨hmap, hall⟩ := unfold_children hcs
      obtain ⟨_, -, hroot, hkeys, -⟩ := Element.ofChildren_ok hmade
      obtain rfl : name' = name := hname
      rw [Element.ofChildren_eq hmade]
      -- Each child has been unfolded from its name, with one level less.
      refine .manager hf ?_ ?_ fun c hc => ih (hall c (Element.mem_foldl_put hc))
      · rwa [← hmap, ← hkeys]
      · rw [Element.map_fst_foldl_put, hmap]

/-- Once all that is reached has been found valid, the unfolding succeeds at whatever depth
    the check does, with the same result. -/
theorem unfold_of_check (h : b.check n above name = .ok ()) (he : b.Unfolds name e) :
    b.unfold n name = .ok e := by
  obtain ⟨e', he'⟩ := exists_unfold_of_check h
  rw [he', he.unique (unfold_unfolds he')]

/-! ### Blueprints that agree -/

/-- What is found out about a name is decided by what is reached from it. -/
theorem check_congr (h : b.AgreesBelow b' name) : b'.check n above name = b.check n above name := by
  induction n generalizing above name with
  | zero => rfl
  | succ n ih =>
    rw [check_succ, check_succ, h name .refl]
    cases hd : b.find? name with
    | none => rfl
    | some d =>
      cases d with
      | leaf => rfl
      | manager manager children first decider description =>
        have hforM : children.forM (b'.check n (above ++ [name])) =
            children.forM (b.check n (above ++ [name])) :=
          forM_congr fun child hc => ih (h.child ⟨_, hd, hc⟩)
        simp only [hforM]

theorem validate_congr (h : b.AgreesBelow b' root) : b'.validate root = b.validate root := by
  -- The blueprints allow different depths: both are compared at the sum of the two.
  have hdepth : b'.check (b'.definitions.length + 1) [] root =
      b.check (b.definitions.length + 1) [] root := by
    rw [← check_add (.top b' root) (by simp) b.definitions.length,
      ← check_add (.top b root) (by simp) b'.definitions.length, check_congr h,
      Nat.add_right_comm, Nat.add_comm b'.definitions.length, Nat.add_right_comm]
  rw [validate, validate, get, get, h root .refl, hdepth]

/-- What is valid is built as what it stands for. -/
theorem build_of_unfolds (hv : b.validate root = .ok ()) (he : b.Unfolds root e)
    (frontEnd : Option FrontEnd) : b.build root frontEnd = .ok (furnish frontEnd e) :=
  build_of_unfold hv (unfold_of_check (check_of_validate hv) he) frontEnd

/-- What is built is decided by what is reached from the root. -/
theorem build_congr (h : b.AgreesBelow b' root) (frontEnd : Option FrontEnd) :
    b'.build root frontEnd = b.build root frontEnd := by
  have hvalid := validate_congr h
  cases hv : b.validate root with
  | error cause =>
    rw [hv] at hvalid
    rw [build, build, hv, hvalid]
    rfl
  | ok =>
    rw [hv] at hvalid
    obtain ⟨e, he⟩ := exists_unfold_of_check (check_of_validate hv)
    have hunfolds := unfold_unfolds he
    rw [build_of_unfolds hv hunfolds, build_of_unfolds hvalid (hunfolds.of_agree h)]

theorem activePath_furnish (frontEnd : Option FrontEnd) :
    (furnish frontEnd e).activePath = e.activePath := by
  cases e <;> rfl

/-- Whatever a blueprint defines:

    * a root that is found valid stands for exactly one element, and this is what is built
      from it, whatever the front end, without a fault; the depth that the unfolding is
      allowed is enough, for with any more of it the element is the same;
    * the active path of what is built goes from the root of the outermost manager on from
      root to root, down to a leaf;
    * another blueprint that defines all that is reached from the root in the same way builds
      the same from it, or fails with the same fault, whatever else it defines and in whatever
      order. -/
theorem build_unfolds_what_is_reached (b : Blueprint) (root : String) :
    (b.validate root = .ok () → ∃ e, b.Unfolds root e ∧ (∀ e', b.Unfolds root e' → e' = e) ∧
      (∀ k, b.unfold (b.definitions.length + 1 + k) root = .ok e) ∧
      ∀ frontEnd, b.build root frontEnd = .ok (furnish frontEnd e) ∧
        b.RootChain root (furnish frontEnd e).activePath) ∧
    ∀ b' : Blueprint, (∀ name, b.Reaches root name → b'.find? name = b.find? name) →
      ∀ frontEnd, b'.build root frontEnd = b.build root frontEnd := by
  refine ⟨fun hv => ?_, fun b' h frontEnd => build_congr h frontEnd⟩
  have hcheck := check_of_validate hv
  obtain ⟨e, he⟩ := exists_unfold_of_check hcheck
  have hunfolds := unfold_unfolds he
  refine ⟨e, hunfolds, fun e' he' => he'.unique hunfolds, fun k => ?_, fun frontEnd => ?_⟩
  · have hdeeper : b.check (b.definitions.length + 1 + k) [] root = .ok () := by
      rw [check_add (.top b root) (by simp) k, hcheck]
    exact unfold_of_check hdeeper hunfolds
  · refine ⟨build_of_unfolds hv hunfolds frontEnd, ?_⟩
    rw [activePath_furnish]
    exact hunfolds.rootChain

/-- A leaf that two managers list, one of them twice. -/
def sharing : Blueprint :=
  ⟨[.leaf "ask" { reply := fun _ _ => .ok .nothing } none none,
    .manager "inner" ["ask", "ask"] "ask" none "",
    .manager "main" ["inner", "ask", "inner"] "inner" none ""]⟩

/-- The same the other way round, with a manager in front that is never reached. -/
def sharingReversed : Blueprint :=
  ⟨.manager "outside" ["main", "nowhere"] "main" none "" :: sharing.definitions.reverse⟩

theorem sharing_agreesBelow : sharing.AgreesBelow sharingReversed "main" := by
  intro name hname
  have hv : sharing.validate "main" = .ok () := rfl
  obtain ⟨d, hd⟩ := (validate_eq_ok_iff.1 hv).defined name hname
  have hmem : name ∈ ["ask", "inner", "main"] := mem_names_of_find? hd
  simp only [List.mem_cons, List.not_mem_nil, or_false] at hmem
  rcases hmem with rfl | rfl | rfl <;> rfl

theorem build_of_sharing :
    (∃ e, sharing.Unfolds "main" e ∧ sharing.build "main" none = .ok (furnish none e) ∧
      e.children.map Prod.fst = ["inner", "ask"] ∧ e.activePath = ["inner", "ask"]) ∧
    sharingReversed.build "main" none = sharing.build "main" none := by
  obtain ⟨hbuilds, hagrees⟩ := build_unfolds_what_is_reached sharing "main"
  obtain ⟨e, he, -, hunfold, hbuild⟩ := hbuilds rfl
  have heq : e = _ := Except.ok.inj ((hunfold 0).symm.trans rfl)
  refine ⟨⟨e, he, (hbuild none).1, ?_, ?_⟩, hagrees _ sharing_agreesBelow none⟩
  · rw [heq]
    rfl
  · rw [heq]
    rfl

end Blueprint

end Parley

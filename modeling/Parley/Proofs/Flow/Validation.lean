import Mathlib.Data.List.Chain
import Mathlib.Data.List.Nodup
import Mathlib.Data.List.Perm.Subperm
import Parley.Proofs.Flow.Registration

/-!
# Valid blueprints

The definitions of a blueprint make a graph: a manager's name lists the names of its
children (`Blueprint.Lists`). The validation of a root goes down this graph from name to
name and keeps the names above the one that it is at (`Blueprint.Descends`), which list
each other from the root down. So it finds a name that is above itself, and nothing else
keeps it from going on; a name that several managers list is checked once for each of
them.

* `check_ok` and `check_error`: what is checked without a fault is sound from there down
  (`Blueprint.IsSound`), and a fault names a flaw that is there (`Blueprint.HasFlaw`);
* `validate_eq_ok_iff`: so the validation succeeds on sound roots and on no others;
* `check_add`: the names above one are pairwise different managers, so the depth that the
  validation is allowed suffices whatever the definitions are.
-/

namespace Parley

open Relation

namespace Definition

/-- The names of the children. -/
def children : Definition → List String
  | .leaf .. => []
  | .manager _ children .. => children

def IsManager : Definition → Prop
  | .leaf .. => False
  | .manager .. => True

/-- A manager has children, and its root is one of them. -/
def IsRooted : Definition → Prop
  | .leaf .. => True
  | .manager _ children root .. => children ≠ [] ∧ root ∈ children

end Definition

namespace Blueprint

variable {b : Blueprint} {n : Nat} {above path : List String} {name child root : String}
  {d : Definition} {cause : Fault}

/-! ### The graph of a blueprint -/

/-- The name is that of a manager which lists the other name among its children. -/
def Lists (b : Blueprint) (name child : String) : Prop :=
  ∃ d, b.find? name = some d ∧ child ∈ d.children

/-- One name is reached from the other through lists of children. -/
abbrev Reaches (b : Blueprint) : String → String → Prop :=
  ReflTransGen b.Lists

/-- All that a root needs to be built. -/
structure IsSound (b : Blueprint) (root : String) : Prop where
  outermost : ∃ d, b.find? root = some d ∧ d.IsManager
  defined : ∀ name, b.Reaches root name → ∃ d, b.find? name = some d
  rooted : ∀ name d, b.Reaches root name → b.find? name = some d → d.IsRooted
  acyclic : ∀ name, b.Reaches root name → ¬TransGen b.Lists name name

/-- A path of names from the root down that comes back to one of them. -/
structure IsCyclePath (b : Blueprint) (root : String) (path : List String) : Prop where
  head : path.head? = some root
  listed : path.IsChain b.Lists
  repeated : ∃ above name, path = above ++ [name] ∧ name ∈ above

/-- What the fault says of a root is the case. -/
inductive HasFlaw (b : Blueprint) (root : String) : ConfigurationFault → Prop
  | unknown {name : String} : b.Reaches root name → b.find? name = none →
      HasFlaw b root (.unknownElement name)
  | leaf {d : Definition} : b.find? root = some d → ¬d.IsManager → HasFlaw b root (.leafAsRoot root)
  | childless {name manager first description : String} {decider : Option Decider} :
      b.Reaches root name → b.find? name = some (.manager manager [] first decider description) →
      HasFlaw b root (.noNodes name)
  | unrooted {name manager first description : String} {children : List String}
      {decider : Option Decider} : b.Reaches root name →
      b.find? name = some (.manager manager children first decider description) →
      first ∉ children → HasFlaw b root (.rootNotListed name first)
  | cycle {path : List String} : b.IsCyclePath root path → HasFlaw b root (.cycle path)

theorem get_eq_ok_iff : b.get name = .ok d ↔ b.find? name = some d := by
  unfold get
  cases b.find? name <;> simp

theorem mem_names_of_find? (h : b.find? name = some d) : name ∈ b.names := by
  have hname : d.name = name := by simpa using List.find?_some h
  exact List.mem_map.2 ⟨d, List.mem_of_find?_eq_some h, hname⟩

/-- A repeated name is reached from itself. -/
theorem IsCyclePath.exists_cycle (h : b.IsCyclePath root path) :
    ∃ name, b.Reaches root name ∧ TransGen b.Lists name name := by
  obtain ⟨above, name, rfl, hmem⟩ := h.repeated
  have hpair := (h.listed.imp fun _ _ => TransGen.single).pairwise
  have hcycle : TransGen b.Lists name name :=
    (List.pairwise_append.1 hpair).2.2 name hmem name (List.mem_singleton_self name)
  refine ⟨name, ?_, hcycle⟩
  cases above with
  | nil => cases hmem
  | cons first above =>
    cases h.head
    exact ((List.pairwise_cons.1 hpair).1 name (by simp)).to_reflTransGen

/-- A sound root has no flaws. -/
theorem HasFlaw.not_isSound {fault : ConfigurationFault} (h : b.HasFlaw root fault) :
    ¬b.IsSound root := by
  intro hs
  cases h with
  | unknown hr hd =>
    obtain ⟨d, hd'⟩ := hs.defined _ hr
    cases hd.symm.trans hd'
  | leaf hd hl =>
    obtain ⟨d, hd', hm⟩ := hs.outermost
    cases hd.symm.trans hd'
    exact hl hm
  | childless hr hd => exact (hs.rooted _ _ hr hd).1 rfl
  | unrooted hr hd hroot => exact hroot (hs.rooted _ _ hr hd).2
  | cycle hp =>
    obtain ⟨name, hr, hcycle⟩ := hp.exists_cycle
    exact hs.acyclic name hr hcycle

/-! ### The way down -/

/-- The names lead from the root down to the name, each listed by the one before, and
    none of them twice. -/
structure Descends (b : Blueprint) (root : String) (above : List String) (name : String) :
    Prop where
  head : (above ++ [name]).head? = some root
  listed : (above ++ [name]).IsChain b.Lists
  nodup : above.Nodup

namespace Descends

theorem top (b : Blueprint) (root : String) : b.Descends root [] root :=
  ⟨rfl, .singleton root, .nil⟩

theorem below (h : b.Descends root above name) (ha : name ∉ above) (hc : b.Lists name child) :
    b.Descends root (above ++ [name]) child where
  head := by
    rw [List.head?_append, h.head]
    rfl
  listed := by
    refine h.listed.append (.singleton child) fun x hx y hy => ?_
    cases hy
    rw [List.getLast?_concat] at hx
    cases hx
    exact hc
  nodup := by
    rw [List.nodup_append]
    refine ⟨h.nodup, List.nodup_singleton name, fun x hx y hy => ?_⟩
    rw [List.mem_singleton.1 hy]
    rintro rfl
    exact ha hx

/-- All that is above a name lists it, directly or not. -/
theorem transGen (h : b.Descends root above name) {x : String} (hx : x ∈ above) :
    TransGen b.Lists x name :=
  (List.pairwise_append.1 (h.listed.imp fun _ _ => TransGen.single).pairwise).2.2 x hx name
    (List.mem_singleton_self name)

theorem reaches (h : b.Descends root above name) : b.Reaches root name := by
  cases above with
  | nil =>
    cases h.head
    exact .refl
  | cons first above =>
    cases h.head
    exact (h.transGen List.mem_cons_self).to_reflTransGen

/-- There are at most as many names above one as there are definitions. -/
theorem length_le (h : b.Descends root above name) : above.length ≤ b.definitions.length := by
  have hsub : above ⊆ b.names := fun x hx => by
    obtain ⟨_, ⟨d, hd, -⟩, -⟩ := TransGen.head'_iff.1 (h.transGen hx)
    exact mem_names_of_find? hd
  simpa [names] using (List.subperm_of_subset h.nodup hsub).length_le

end Descends

/-! ### What the check finds -/

/-- One name after the other is checked: it must not be above itself, must be defined,
    and as a manager must have children with its root among them. -/
theorem check_succ : b.check (n + 1) above name =
    if name ∈ above then .error (.configuration (.cycle (above ++ [name])))
    else match b.find? name with
      | none => .error (.configuration (.unknownElement name))
      | some (.leaf ..) => .ok ()
      | some (.manager _ children first _ _) =>
        if children = [] then .error (.configuration (.noNodes name))
        else if first ∉ children then .error (.configuration (.rootNotListed name first))
        else children.forM (b.check n (above ++ [name])) := by
  rw [check]
  by_cases ha : name ∈ above
  · rw [if_pos (List.contains_iff_mem.2 ha), if_pos ha]
    rfl
  · rw [if_neg (mt List.contains_iff_mem.1 ha), if_neg ha, get]
    cases b.find? name with
    | none => rfl
    | some d =>
      cases d with
      | leaf => rfl
      | manager _ children first _ _ =>
        by_cases hc : children = []
        · subst hc
          rfl
        · by_cases hr : first ∈ children
          · simp [bind, Except.bind, hc, hr]
          · simp [bind, Except.bind, hc, hr, throw, throwThe, MonadExceptOf.throw]

/-- From a name that has been checked nothing above it is reached, and all that is reached
    is defined, rooted and not below itself. -/
theorem check_ok (h : b.check n above name = .ok ()) : ∀ x, b.Reaches name x →
    x ∉ above ∧ (∃ d, b.find? x = some d ∧ d.IsRooted) ∧ ¬TransGen b.Lists x x := by
  induction n generalizing above name with
  | zero => cases h
  | succ n ih =>
    obtain ⟨ha, d, hd, hchecks⟩ := check_succ_iff.1 h
    rw [get_eq_ok_iff] at hd
    have hrooted : d.IsRooted := by
      cases d with
      | leaf => trivial
      | manager => exact ⟨hchecks.1, hchecks.2.1⟩
    have hchild {c : String} (hc : b.Lists name c) : b.check n (above ++ [name]) c = .ok () := by
      obtain ⟨d', hd', hmem⟩ := hc
      cases hd.symm.trans hd'
      cases d with
      | leaf => cases hmem
      | manager => exact hchecks.2.2 c hmem
    intro x hx
    rcases hx.cases_head with rfl | ⟨c, hc, hx⟩
    · refine ⟨ha, ⟨d, hd, hrooted⟩, fun hcycle => ?_⟩
      -- The name would be reached from one of its children, although it is above them.
      obtain ⟨c, hc, hback⟩ := TransGen.head'_iff.1 hcycle
      exact (ih (hchild hc) _ hback).1 (by simp)
    · obtain ⟨hx', hsound⟩ := ih (hchild hc) x hx
      exact ⟨fun hmem => hx' (List.mem_append_left _ hmem), hsound⟩

/-- A check that fails says what is wrong, if it may go deep enough. -/
theorem check_error (hw : b.Descends root above name) (hn : b.definitions.length < n + above.length)
    (h : b.check n above name = .error cause) :
    ∃ fault, cause = .configuration fault ∧ b.HasFlaw root fault := by
  induction n generalizing above name with
  | zero =>
    -- The names above are different ones, so there cannot be that many of them.
    have := hw.length_le
    omega
  | succ n ih =>
    rw [check_succ] at h
    by_cases ha : name ∈ above
    · rw [if_pos ha] at h
      cases h
      exact ⟨_, rfl, .cycle ⟨hw.head, hw.listed, above, name, rfl, ha⟩⟩
    · rw [if_neg ha] at h
      cases hd : b.find? name with
      | none =>
        rw [hd] at h
        cases h
        exact ⟨_, rfl, .unknown hw.reaches hd⟩
      | some d =>
        rw [hd] at h
        cases d with
        | leaf => cases h
        | manager manager children first decider description =>
          simp only at h
          split at h
          · subst children
            cases h
            exact ⟨_, rfl, .childless hw.reaches hd⟩
          · split at h
            · cases h
              exact ⟨_, rfl, .unrooted hw.reaches hd ‹_›⟩
            · obtain ⟨child, hc, he⟩ := exists_of_forM_error h
              refine ih (hw.below ha ⟨_, hd, hc⟩) ?_ he
              rw [List.length_append, List.length_singleton]
              omega

/-- To allow more depth than there are definitions changes nothing. -/
theorem check_add (hw : b.Descends root above name) (hn : b.definitions.length < n + above.length)
    (k : Nat) : b.check (n + k) above name = b.check n above name := by
  induction n generalizing above name with
  | zero =>
    -- There would be more names above than there are definitions.
    have := hw.length_le
    omega
  | succ n ih =>
    rw [Nat.succ_add_eq_add_succ, Nat.add_succ, check_succ, check_succ]
    by_cases ha : name ∈ above
    · rw [if_pos ha, if_pos ha]
    · rw [if_neg ha, if_neg ha]
      cases hd : b.find? name with
      | none => rfl
      | some d =>
        cases d with
        | leaf => rfl
        | manager manager children first decider description =>
          have hforM : children.forM (b.check (n + k) (above ++ [name])) =
              children.forM (b.check n (above ++ [name])) := forM_congr fun child hc => by
            refine ih (hw.below ha ⟨_, hd, hc⟩) ?_
            rw [List.length_append, List.length_singleton]
            omega
          simp only [hforM]

/-! ### Validation -/

theorem validate_ok (h : b.validate root = .ok ()) : b.IsSound root := by
  have hall := check_ok (check_of_validate h)
  obtain ⟨d, hd, h⟩ := ok_of_bind h
  refine ⟨⟨d, get_eq_ok_iff.1 hd, ?_⟩, fun x hx => ?_, fun x d hx hd => ?_, fun x hx => ?_⟩
  · cases d with
    | leaf => cases h
    | manager => trivial
  · obtain ⟨-, ⟨d, hd, -⟩, -⟩ := hall x hx
    exact ⟨d, hd⟩
  · obtain ⟨-, ⟨d', hd', hrooted⟩, -⟩ := hall x hx
    cases hd.symm.trans hd'
    exact hrooted
  · exact (hall x hx).2.2

theorem validate_error (h : b.validate root = .error cause) :
    ∃ fault, cause = .configuration fault ∧ b.HasFlaw root fault := by
  rw [validate, get] at h
  cases hd : b.find? root with
  | none =>
    rw [hd] at h
    cases h
    exact ⟨_, rfl, .unknown .refl hd⟩
  | some d =>
    rw [hd] at h
    cases d with
    | leaf =>
      cases h
      exact ⟨_, rfl, .leaf hd not_false⟩
    | manager => exact check_error (.top b root) (by simp) h

/-- The validation succeeds on sound roots and on no others. -/
theorem validate_eq_ok_iff : b.validate root = .ok () ↔ b.IsSound root := by
  refine ⟨validate_ok, fun hs => ?_⟩
  cases h : b.validate root with
  | ok => rfl
  | error cause =>
    obtain ⟨fault, -, hflaw⟩ := validate_error h
    exact absurd hs hflaw.not_isSound

/-- Whatever a blueprint defines and whatever root is asked for:

    * the validation comes to an end: the depth that it is allowed is enough, for with any
      more of it the check gives the same result;
    * it succeeds if the root is a manager, all names that are reached from it are
      defined, all managers among them have children with their root among these, and
      none is reached from itself; and it succeeds only then;
    * otherwise it fails with a fault of configuration that names a flaw of the root;
    * a fault that names a cycle has a path of names which begins with the root, lists
      each name among the children of the one before, and ends with a name that it has
      had before. -/
theorem validation_decides_soundness (b : Blueprint) (root : String) :
    (∀ k, b.check (b.definitions.length + 1 + k) [] root =
      b.check (b.definitions.length + 1) [] root) ∧
    (b.validate root = .ok () ↔ b.IsSound root) ∧
    (¬b.IsSound root → ∃ fault, b.validate root = .error (.configuration fault) ∧
      b.HasFlaw root fault) ∧
    ∀ path, b.validate root = .error (.configuration (.cycle path)) →
      path.head? = some root ∧
      (∀ i parent child, path[i]? = some parent → path[i + 1]? = some child →
        b.Lists parent child) ∧
      ∃ above name, path = above ++ [name] ∧ name ∈ above := by
  refine ⟨check_add (.top b root) (by simp), validate_eq_ok_iff, fun hs => ?_, fun path h => ?_⟩
  · cases h : b.validate root with
    | ok => exact absurd (validate_eq_ok_iff.1 h) hs
    | error cause =>
      obtain ⟨fault, rfl, hflaw⟩ := validate_error h
      exact ⟨fault, rfl, hflaw⟩
  · obtain ⟨fault, hfault, hflaw⟩ := validate_error h
    cases hfault
    -- Of all flaws only a cycle is reported with a path.
    cases hflaw with
    | cycle hp =>
      refine ⟨hp.head, fun i parent child hi hj => ?_, hp.repeated⟩
      obtain ⟨hlt, rfl⟩ := List.getElem?_eq_some_iff.1 hj
      obtain ⟨hlt', rfl⟩ := List.getElem?_eq_some_iff.1 hi
      exact List.isChain_iff_getElem.1 hp.listed i hlt

/-- A name that two managers list is not a cycle. -/
example (decider : Decider) : (Blueprint.mk [
    .leaf "ask" decider none none, .manager "first" ["ask"] "ask" none "",
    .manager "second" ["ask"] "ask" none "",
    .manager "main" ["first", "second"] "first" none ""]).validate "main" = .ok () := by
  rfl

end Blueprint

end Parley

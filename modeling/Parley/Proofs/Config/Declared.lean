import Parley.Proofs.Config.Compile
import Parley.Proofs.Flow.Attached
import Parley.Proofs.Value.Merging

/-!
# Nodes that decide as declared

A node without a decision function says in its configuration what it stores and where it goes. Its
decider goes by a state of its own making, the shared state with the whole patch merged, while the
shared state itself is changed later and elsewhere, by the owner of the session. What comes of both
can be said without either:

* `NodeConfig.updated`: the state with the fixed entries of the node set, and then the input under
  its key, which may be the key of a fixed entry;
* `NodeConfig.destination`: where the node goes from there, if the value that it branches on can be
  written.

`declared_node_routes_on_what_it_stores` says that a node goes where this state leads, and that this
is the state that the next one sees. Where the state leads nowhere, because of a value that cannot
be written, nothing is stored either.
-/

namespace Parley

namespace Config

/-! ### What a node stores, and where it goes -/

/-- Its fixed entries are set, and then the input under its key. -/
def NodeConfig.updated (n : NodeConfig) (v : Value) (state : Mapping) : Mapping :=
  let fixed := state.merge (n.patch.map fun e => (.text e.1, e.2))
  match n.store with
  | some key => fixed.insert (.text key) v
  | none => fixed

/-- It goes to the next node, or to the case that the value at the key of its branch is in text,
    or where no case fits. -/
def NodeConfig.destination (n : NodeConfig) (state : Mapping) : Except Misuse (Option String) :=
  match n.next, n.branch with
  | some target, _ => .ok (some target)
  | none, some branch =>
    (state.get branch.key).display.map fun words => (lookup words branch.cases).or branch.default
  | none, none => .ok none

/-- What a manager does with a destination. -/
def taskTo (p : Address) : Option String → Task
  | some target => .move p (.text target)
  | none => .close p

variable {n : NodeConfig} {name : String} {handlers : Handlers} {v : Value} {state : Mapping}

/-- The fixed entries make a patch whose keys are texts. -/
theorem isTextual_patch : Mapping.IsTextual (n.patch.map fun e => (.text e.1, e.2)) := by
  intro e he
  obtain ⟨e', -, rfl⟩ := List.mem_map.1 he
  exact ⟨e'.1, rfl⟩

theorem NodeConfig.isTextual_patchFor : (n.patchFor v).IsTextual := by
  unfold patchFor
  cases n.store with
  | none => exact isTextual_patch
  | some key => exact isTextual_patch.insert key v

/-- The decider merges what the node stores. -/
theorem NodeConfig.merge_patchFor (h : (n.patch.map Prod.fst).Nodup) :
    state.merge (n.patchFor v) = n.updated v state := by
  unfold patchFor updated
  cases n.store with
  | none => rfl
  | some key =>
    -- The decider sets the key within the patch, in its place if it is that of a fixed entry.
    have hfixed : Mapping.IsDistinct (n.patch.map fun e => (.text e.1, e.2)) := by
      refine List.pairwise_map.2 ((List.pairwise_map.1 h).imp fun hne hsame => hne ?_)
      exact Value.text.inj (Value.sameKey_text_iff.1 hsame)
    exact Mapping.merge_insert hfixed

/-- It routes to where the node goes. -/
theorem NodeConfig.route_eq (h : n.next = none ∨ n.branch = none) :
    n.route state = n.destination state := by
  unfold route destination
  cases hb : n.branch with
  | none => cases n.next <;> rfl
  | some branch =>
    -- The decider looks at the branch first, but no node has a next one besides.
    rw [h.resolve_right (by simp [hb])]
    simp only [BranchConfig.choose]
    cases (state.get branch.key).display <;> rfl

/-- Only a value to branch on that cannot be written leads nowhere. -/
theorem NodeConfig.destination_eq_error_iff {cause : Misuse} :
    n.destination state = .error cause ↔ cause = .digits ∧ n.next = none ∧
      ∃ branch, n.branch = some branch ∧ (state.get branch.key).isWritable = false := by
  unfold destination
  cases n.next with
  | some target => simp
  | none =>
    cases n.branch with
    | none => simp
    | some branch =>
      cases hw : (state.get branch.key).isWritable with
      | true => simp [Value.display_of_isWritable hw, hw, Except.map]
      | false =>
        simp only [Value.display_of_not_isWritable hw, Except.map]
        constructor
        · rintro ⟨⟩
          exact ⟨rfl, trivial, branch, rfl, hw⟩
        · rintro ⟨rfl, -⟩
          rfl

/-- The decision of a node that has been read. -/
theorem NodeConfig.decision_of_node {value : Value} {d : Decider} (hn : node value = .ok n)
    (hplain : n.decide = none) (hd : n.decider name handlers = .ok d) :
    d.decision (some v) state = ((n.destination (n.updated v state)).map fun target =>
      ⟨nameOrNull target, Decision.patchOf (n.patchFor v)⟩).mapError .misuse := by
  rw [decider, hplain] at hd
  cases hd
  rw [decision_declared, route_eq (routing_of_node hn), merge_patchFor (nodup_of_node hn)]

/-- A name is where to move to, and none is the end. -/
theorem task_nameOrNull (target : Option String) (patch : Value) (p : Address) :
    Decision.task ⟨nameOrNull target, patch⟩ p = taskTo p target := by
  cases target <;> rfl

end Config

/-! ### Where it leads -/

open Config in
/-- Whatever node has been read from a configuration, without a decision function, whatever leaf
    decides as it is compiled to, whatever input the leaf gets, and however deep below the manager
    `m` that owns the session it is attached, as long as the keys of the state of `m` are texts:

    * if the node has a destination in the new state, then the state of `m` is updated as the node
      says, and nothing else is changed but the status of the leaf, and what is noted of the
      consultation;
    * the leaf reports to its manager then that it is to move to the destination, which is one of
      its targets, or, if there is none, that its traversal is over; and the new state is what the
      manager sees from then on, and what the destination sees when it is executed;
    * if the node has none, as the value that it branches on cannot be written in the new state,
      then this is reported as a misuse, and nothing is changed but what is noted of the
      consultation. -/
theorem declared_node_routes_on_what_it_stores {value : Value} {n : NodeConfig}
    {handlers : Handlers} {s : Scene} {p o : Address} {key : String} {l : Leaf} {m : Manager}
    (hn : node value = .ok n) (hplain : n.decide = none)
    (hdecider : n.decider l.name handlers = .ok l.decider)
    (hleaf : s.top.at? (key :: p) = some (.leaf l)) (hlink : l.link = .holder)
    (howner : s.ownerOf p = .manager o) (hm : s.manager? o = some m) (hs : m.state.IsTextual)
    (v : Value) :
    let new := n.updated v m.state
    let call : Call := ⟨l.name, l.decider.label, some v, m.state⟩
    (∀ goal, n.destination new = .ok goal → ∃ s' log,
      (Task.input (key :: p) v).step s = (.ok (some (taskTo p goal)), s') ∧
      s' = { s.resolve o (key :: p) new call with log := log } ∧
      s'.stateFor (.manager p) = new ∧
      ∀ target, goal = some target → target ∈ n.targets ∧ s'.NextSees p target new) ∧
    ∀ cause, n.destination new = .error cause →
      (cause = .digits ∧ n.next = none ∧
        ∃ branch, n.branch = some branch ∧ (new.get branch.key).isWritable = false) ∧
      ∃ log, (Task.input (key :: p) v).step s =
        (.error (.misuse cause), { s with calls := s.calls ++ [call], log := log }) := by
  intro new call
  have hup : s.superior (key :: p) = some (.manager p) := by
    rw [Scene.superior, hleaf, Option.map_some, Element.link, hlink]
  have hdec : l.decider.decision (some v) m.state = ((n.destination new).map fun target =>
      ⟨nameOrNull target, Decision.patchOf (n.patchFor v)⟩).mapError .misuse :=
    NodeConfig.decision_of_node hn hplain hdecider
  have hstep : (Task.input (key :: p) v).step s = Act.inputLeaf (key :: p) l v s := by
    simp only [Task.step, bind_apply, get_apply, hleaf]
  refine ⟨fun goal hgoal => ?_, fun cause hcause => ⟨NodeConfig.destination_eq_error_iff.1 hcause,
    ?_⟩⟩
  · rw [hgoal] at hdec
    have hacts := Act.inputLeaf_of_patchOf hup howner hm hdec hs NodeConfig.isTextual_patchFor rfl
      (isWritable_nameOrNull goal)
    rw [NodeConfig.merge_patchFor (nodup_of_node hn), task_nameOrNull] at hacts
    obtain ⟨log, hrun⟩ := hacts s.log
    -- What is seen afterwards depends on the flow only, so not on what the step logs.
    have hsees (s' : Scene) (htop : s'.top = (s.resolve o (key :: p) new call).top) :
        s'.stateFor (.manager p) = new ∧
          ∀ target, goal = some target → target ∈ n.targets ∧ s'.NextSees p target new := by
      obtain ⟨howner', hm'⟩ := Scene.owner_resolve howner hm htop
      refine ⟨Scene.stateFor_of_ownerOf howner' hm', fun target ht => ⟨?_, ?_⟩⟩
      · have hone := routing_of_node hn
        rw [← NodeConfig.route_eq hone, ht] at hgoal
        exact NodeConfig.route_mem_targets hone hgoal
      · exact Scene.nextSees_stateFor howner' hm' target
    exact ⟨_, log, hstep.trans hrun, rfl, hsees _ rfl⟩
  · rw [hcause] at hdec
    obtain ⟨log, hrun⟩ := Act.inputLeaf_of_error hup howner hm hdec s.log
    exact ⟨log, hstep.trans hrun⟩

namespace Config

/-- A node that stores its input over a fixed entry, and goes by it, as it is written. -/
def choosing : Value :=
  .record [(.text "store", .text "choice"),
    (.text "patch", .record [(.text "choice", .null), (.text "asked", .bool true)]),
    (.text "branch", .record [(.text "key", .text "choice"),
      (.text "cases", .record [(.text "None", .text "ask"), (.text "7", .text "done")]),
      (.text "default", .text "other")])]

/-- The node as it is read. -/
def chooser : NodeConfig where
  output := none
  outputTransform := none
  expectation := none
  expectationTransform := none
  store := some "choice"
  patch := [("choice", .null), ("asked", .bool true)]
  next := none
  branch := some ⟨"choice", [("None", "ask"), ("7", "done")], some "other"⟩
  decide := none

/-- The node in a flow within a flow, attached, with another one to go to. -/
def chooserScene : Scene :=
  .ofElement (.manager { Manager.idle "main" "inner" none with state := [(.text "choice", .int 1)] }
    [("inner", .manager { Manager.idle "inner" "ask" none with link := .holder }
      [("ask", .leaf { Leaf.idle "ask" (chooser.declared "ask") none none with link := .holder }),
        ("done", .leaf (.idle "done" { reply := fun _ _ => .ok .nothing } none none))])])

end Config

open Config in
/-- The input goes over the fixed entry, and decides where to go; there it is found. -/
theorem chooser_routes_on_input : node choosing = .ok chooser ∧
    ∃ s₁ s₂ s₃, (Task.input ["ask", "inner"] (.int 7)).step chooserScene =
        (.ok (some (.move ["inner"] (.text "done"))), s₁) ∧
      (Task.move ["inner"] (.text "done")).step s₁ = (.ok (some (.execute ["inner"])), s₂) ∧
      (Task.execute ["inner"]).step s₂ = (.ok (some (.execute ["done", "inner"])), s₃) ∧
      s₃.superior ["done", "inner"] = some (.manager ["inner"]) ∧
      s₃.stateFor (.manager ["inner"]) =
        [(.text "choice", .int 7), (.text "asked", .bool true)] := by
  have htext : Mapping.IsTextual [(.text "choice", .int 1)] :=
    List.forall_mem_singleton.2 ⟨"choice", rfl⟩
  obtain ⟨hroutes, -⟩ := @declared_node_routes_on_what_it_stores choosing chooser
    .initial chooserScene ["inner"] [] "ask" _ _ rfl rfl rfl rfl rfl rfl rfl htext (.int 7)
  obtain ⟨s', log, hstep, rfl, -, hnext⟩ := hroutes (some "done") rfl
  obtain ⟨-, hsees⟩ := hnext "done" rfl
  exact ⟨rfl, _, _, _, hstep, rfl, rfl, (hsees rfl rfl).2⟩

open Config in
/-- Any other input would lead to where no case fits. If it cannot be written, it leads nowhere. -/
theorem step_chooser_of_not_isWritable {v : Value} (hv : v.isWritable = false) : ∃ s',
    (Task.input ["ask", "inner"] v).step chooserScene = (.error (.misuse .digits), s') ∧
    s'.stateFor (.manager ["inner"]) = [(.text "choice", .int 1)] := by
  have hnowhere : chooser.route [(.text "choice", v), (.text "asked", .bool true)] =
      .error .digits :=
    (NodeConfig.route_eq (.inl rfl)).trans
      (NodeConfig.destination_eq_error_iff.2 ⟨rfl, rfl, _, rfl, hv⟩)
  have hmerge : Mapping.merge [(.text "choice", .int 1)] (chooser.patchFor v) =
      [(.text "choice", v), (.text "asked", .bool true)] := rfl
  have hdec : (chooser.declared "ask").decision (some v) [(.text "choice", .int 1)] =
      .error (.misuse .digits) := by
    rw [NodeConfig.decision_declared, hmerge, hnowhere]
    rfl
  have hup : chooserScene.superior ["ask", "inner"] = some (.manager ["inner"]) := rfl
  obtain ⟨log, hrun⟩ := Act.inputLeaf_of_error (o := [])
    (l := { Leaf.idle "ask" (chooser.declared "ask") none none with link := .holder })
    hup rfl rfl hdec []
  exact ⟨_, hrun, rfl⟩

open Config in
/-- An integer of 4301 digits cannot be written: it is not stored over the fixed entry, and does
    not lead to where no case fits. -/
theorem chooser_fails_on_long_integer : node choosing = .ok chooser ∧
    chooser.branch = some ⟨"choice", [("None", "ask"), ("7", "done")], some "other"⟩ ∧ ∃ s',
    (Task.input ["ask", "inner"] (.int (10 ^ 4300))).step chooserScene =
      (.error (.misuse .digits), s') ∧
    s'.stateFor (.manager ["inner"]) = [(.text "choice", .int 1)] := by
  have hlong : Value.isWritable (.int (10 ^ 4300)) = false := Text.isWritable_ten_pow
  exact ⟨rfl, rfl, step_chooser_of_not_isWritable hlong⟩

end Parley

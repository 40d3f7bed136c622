import Parley.Config.Compile
import Parley.Proofs.Config.Reading
import Parley.Proofs.Flow.Registration

/-!
# Compiled configurations

What the static checks establish (`mem_of_mem_targets`, `mem_of_next`), and what
the blueprint of a configuration is made of: each name stands for the definition
of the node or of the flow with that name (`FlowFile.definition_of_find?`).

Where an element goes without a decision function can be told from the
configuration: a node goes to one of its targets (`NodeConfig.next_mem_targets`),
and a flow to the next one (`FlowConfig.next_of_decision`).
-/

namespace Parley.Config

variable {c : FlowFile} {handlers : Handlers} {b b₀ : Blueprint} {d : Definition}
  {name child target : String} {n : NodeConfig} {f g : FlowConfig}

/-! ### Entries by name -/

section

variable {α : Type} {x : α} {e : String × α} {es : List (String × α)}

theorem mem_of_lookup (h : lookup name es = some x) : (name, x) ∈ es := by
  obtain ⟨e, he, rfl⟩ := Option.map_eq_some_iff.1 h
  have hname : e.1 = name := by simpa using List.find?_some he
  exact hname ▸ List.mem_of_find?_eq_some he

theorem lookup_cons : lookup name (e :: es) = if e.1 = name then some e.2 else lookup name es := by
  by_cases h : e.1 = name <;> simp [lookup, h]

end

/-! ### What the checks establish -/

/-- Whatever a node may route to is a sibling of it in every flow that lists it. -/
theorem mem_of_mem_targets (h : c.defects = []) (hf : (name, f) ∈ c.flows) (hc : child ∈ f.nodes)
    (hn : lookup child c.nodes = some n) (ht : target ∈ n.targets) : target ∈ f.nodes := by
  simp only [FlowFile.defects, FlowFile.strayRoutes, List.append_eq_nil_iff,
    List.flatMap_eq_nil_iff, List.map_eq_nil_iff] at h
  have hstray := (h.1.2 _ hf).2 child hc
  simp only [FlowFile.strayTargets, hn, List.filter_eq_nil_iff] at hstray
  simpa using hstray target ht

/-- Names are sorted only where some are both. -/
theorem FlowFile.ambiguous_eq_nil (h : c.nodeNames.filter c.flowNames.contains = []) :
    c.ambiguous = [] := by
  rw [ambiguous, h, List.mergeSort_nil]

/-- A flow that lists another is one of its owners. -/
theorem mem_owners (hg : (name, g) ∈ c.flows) (hc : child ∈ g.nodes) :
    (name, g) ∈ c.owners child := by
  refine List.mem_flatMap.2 ⟨_, hg, List.mem_map.2 ⟨child, ?_, rfl⟩⟩
  exact List.mem_filter.2 ⟨hc, decide_eq_true rfl⟩

/-- The flow that comes next is a sibling in every flow that lists the first. -/
theorem mem_of_next (h : c.defects = []) (hf : (child, f) ∈ c.flows) (hn : f.next = some target)
    (hg : (name, g) ∈ c.flows) (hc : child ∈ g.nodes) : target ∈ g.nodes := by
  simp only [FlowFile.defects, List.append_eq_nil_iff, List.flatMap_eq_nil_iff] at h
  have hstray := h.2 _ hf
  have howner := mem_owners hg hc
  simp only [FlowFile.strayNext, hn] at hstray
  split at hstray
  · cases hstray
  · rw [List.map_eq_nil_iff, List.filter_eq_nil_iff] at hstray
    simpa using hstray _ howner

/-- A flow that names a next one is listed together with it by some flow. -/
theorem exists_owner_of_next (h : c.defects = []) (hf : (child, f) ∈ c.flows)
    (hn : f.next = some target) : ∃ g ∈ c.flows, child ∈ g.2.nodes ∧ target ∈ g.2.nodes := by
  have hall := h
  simp only [FlowFile.defects, List.append_eq_nil_iff, List.flatMap_eq_nil_iff] at hall
  have hstray := hall.2 _ hf
  simp only [FlowFile.strayNext, hn] at hstray
  split at hstray
  · cases hstray
  · obtain ⟨owner, howner⟩ := List.exists_mem_of_ne_nil _ (mt List.isEmpty_iff.2 ‹_›)
    obtain ⟨g, hg, hmem⟩ := List.mem_flatMap.1 howner
    obtain ⟨child', hchild, -⟩ := List.mem_map.1 hmem
    obtain ⟨hlisted, hsame⟩ := List.mem_filter.1 hchild
    obtain rfl := of_decide_eq_true hsame
    exact ⟨g, hg, hlisted, mem_of_next h hf hn hg hlisted⟩

/-! ### Where elements go -/

/-- A node that routes in one way goes to one of its targets. -/
theorem NodeConfig.route_mem_targets (h : n.next = none ∨ n.branch = none) {state : Mapping}
    (hr : n.route state = .ok (some target)) : target ∈ n.targets := by
  unfold route at hr
  unfold targets
  cases hb : n.branch with
  | none =>
    rw [hb] at hr
    rw [show n.next = some target from Except.ok.inj hr]
    exact List.mem_singleton_self target
  | some branch =>
    -- With a branch there is no next node, so the targets are those of the branch.
    rw [hb] at hr
    rw [h.resolve_right (by simp [hb])]
    obtain ⟨words, -, hchosen⟩ := ok_of_bind (show branch.choose state = .ok (some target) from hr)
    cases hc : lookup words branch.cases with
    | some target' =>
      rw [hc] at hchosen
      cases hchosen
      exact List.mem_append_left _ (List.mem_map.2 ⟨_, mem_of_lookup hc, rfl⟩)
    | none =>
      rw [hc] at hchosen
      exact List.mem_append_right _ (Option.mem_toList.2 (Except.ok.inj hchosen))

@[simp] theorem isWritable_nameOrNull (name : Option String) :
    (nameOrNull name).isWritable = true := by
  cases name <;> rfl

/-- A node without a decision function goes by its route. -/
theorem NodeConfig.decision_declared (n : NodeConfig) (name : String) (v : Value)
    (state : Mapping) : (n.declared name).decision (some v) state =
      ((n.route (state.merge (n.patchFor v))).map fun route =>
        ⟨nameOrNull route, Decision.patchOf (n.patchFor v)⟩).mapError .misuse := by
  cases hr : n.route (state.merge (n.patchFor v)) <;>
    simp only [Decider.decision, declared, decision, Option.getD_some, hr] <;> rfl

/-- Where a node goes that has no decision function. -/
theorem NodeConfig.next_mem_targets (h : n.next = none ∨ n.branch = none) (hn : n.decide = none)
    {decider : Decider} (hd : n.decider name handlers = .ok decider) {v : Value} {state : Mapping}
    {d : Decision} (hdec : decider.decision (some v) state = .ok d) (hgo : d.finishes = false) :
    ∃ target ∈ n.targets, d.next = .text target := by
  simp only [NodeConfig.decider, hn] at hd
  cases hd
  rw [decision_declared] at hdec
  cases hr : n.route (state.merge (n.patchFor v)) with
  | error cause =>
    rw [hr] at hdec
    cases hdec
  | ok route =>
    rw [hr] at hdec
    cases hdec
    cases route with
    | none => simp [nameOrNull, Decision.finishes, Value.isNull] at hgo
    | some target => exact ⟨target, route_mem_targets h hr, rfl⟩

/-- A flow that has no decision function goes to the next one, if there is one, and
    merges nothing. -/
theorem FlowConfig.decision_eq (hf : f.decide = none) {m : Manager}
    (hd : f.decider handlers = .ok m.decider) (state : Mapping) :
    m.decision state = .ok ⟨nameOrNull f.next, .null⟩ := by
  rw [FlowConfig.decider, hf] at hd
  rw [Manager.decision]
  cases hn : f.next with
  | none =>
    simp only [hn, Except.ok.injEq] at hd
    rw [← hd]
    rfl
  | some target =>
    simp only [hn, Except.ok.injEq] at hd
    rw [← hd]
    rfl

theorem FlowConfig.next_of_decision (hf : f.decide = none) {m : Manager}
    (hd : f.decider handlers = .ok m.decider) {state : Mapping} {d : Decision}
    (hdec : m.decision state = .ok d) (hgo : d.finishes = false) :
    ∃ target, f.next = some target ∧ d.next = .text target := by
  rw [decision_eq hf hd] at hdec
  cases hdec
  cases hn : f.next with
  | none => simp [hn, nameOrNull, Decision.finishes, Value.isNull] at hgo
  | some target => exact ⟨target, rfl, rfl⟩

/-! ### Definitions -/

theorem NodeConfig.definition_ok (h : n.definition name handlers = .ok d) :
    ∃ decider output expectation, n.decider name handlers = .ok decider ∧
      d = .leaf name decider output expectation := by
  obtain ⟨output, -, h⟩ := ok_of_bind h
  obtain ⟨expectation, -, h⟩ := ok_of_bind h
  obtain ⟨decider, hd, h⟩ := ok_of_bind h
  cases h
  exact ⟨decider, output, expectation, hd, rfl⟩

theorem FlowConfig.definition_ok (h : f.definition name handlers = .ok d) :
    ∃ decider, f.decider handlers = .ok decider ∧
      d = .manager name f.nodes f.root decider f.description := by
  obtain ⟨decider, hd, h⟩ := ok_of_bind h
  cases h
  exact ⟨decider, hd, rfl⟩

theorem NodeConfig.definition_name (h : n.definition name handlers = .ok d) : d.name = name := by
  obtain ⟨decider, output, expectation, -, rfl⟩ := definition_ok h
  rfl

theorem FlowConfig.definition_name (h : f.definition name handlers = .ok d) : d.name = name := by
  obtain ⟨decider, -, rfl⟩ := definition_ok h
  rfl

/-- Registering one definition after the other adds an entry for each name. -/
theorem find?_foldlM {α : Type} (define : α → String → Except Fault Definition)
    (hname : ∀ {x name d}, define x name = .ok d → d.name = name) {es : List (String × α)}
    (h : es.foldlM (fun b e => do b.register (← define e.2 e.1)) b₀ = .ok b) (name : String) :
    b.find? name = b₀.find? name ∨ b₀.find? name = none ∧
      ∃ x d, lookup name es = some x ∧ define x name = .ok d ∧ b.find? name = some d := by
  induction es generalizing b₀ with
  | nil =>
    cases h
    exact .inl rfl
  | cons e es ih =>
    rw [List.foldlM_cons] at h
    obtain ⟨b₁, hb, h⟩ := ok_of_bind h
    obtain ⟨d, hd, hb⟩ := ok_of_bind hb
    obtain ⟨hfree, hfind⟩ := Blueprint.find?_register hb name
    rw [lookup_cons, ← hname hd]
    by_cases he : d.name = name
    · -- The name is taken from then on, so no later entry has it.
      subst he
      rw [hfree, Option.none_or, if_pos rfl] at hfind
      rcases ih h with hsame | ⟨hnone, -⟩
      · exact .inr ⟨hfree, e.2, d, if_pos rfl, hname hd ▸ hd, hsame.trans hfind⟩
      · rw [hfind] at hnone
        cases hnone
    · rw [if_neg he, Option.or_none] at hfind
      rw [if_neg he, ← hfind]
      exact ih h

theorem FlowFile.compile_of_defects (h : c.defects = []) :
    c.compile handlers = c.assemble handlers := by
  rw [compile, h]
  rfl

theorem FlowFile.defects_of_compile (h : c.compile handlers = .ok b) : c.defects = [] := by
  unfold compile at h
  split at h
  · exact List.isEmpty_iff.1 ‹_›
  · cases h

/-- The blueprint consists of the definitions of the nodes and then of the flows. -/
def FlowFile.Yields (c : FlowFile) (handlers : Handlers) (b : Blueprint) : Prop :=
  ∃ withNodes,
    c.nodes.foldlM (fun b e => do b.register (← e.2.definition e.1 handlers)) Blueprint.empty =
      .ok withNodes ∧
    c.flows.foldlM (fun b e => do b.register (← e.2.definition e.1 handlers)) withNodes = .ok b

/-- It is what the configuration is compiled to if it is found valid. -/
theorem FlowFile.assemble_eq_ok_iff : c.assemble handlers = .ok b ↔
    c.Yields handlers b ∧ b.validate c.root = .ok () := by
  constructor
  · intro h
    obtain ⟨withNodes, hnodes, h⟩ := ok_of_bind h
    obtain ⟨whole, hflows, h⟩ := ok_of_bind h
    obtain ⟨⟨⟩, hv, h⟩ := ok_of_bind h
    cases h
    exact ⟨⟨withNodes, hnodes, hflows⟩, hv⟩
  · rintro ⟨⟨withNodes, hnodes, hflows⟩, hv⟩
    rw [assemble, bind_of_ok hnodes, bind_of_ok hflows, bind_of_ok hv]
    rfl

theorem FlowFile.compile_eq_ok_iff : c.compile handlers = .ok b ↔
    c.defects = [] ∧ c.Yields handlers b ∧ b.validate c.root = .ok () := by
  refine ⟨fun h => ?_, fun h => ?_⟩
  · have hd := defects_of_compile h
    rw [compile_of_defects hd] at h
    exact ⟨hd, assemble_eq_ok_iff.1 h⟩
  · rw [compile_of_defects h.1]
    exact assemble_eq_ok_iff.2 h.2

/-- Each name of such a blueprint stands for the node or the flow with that name. -/
theorem FlowFile.Yields.definition_of_find? (h : c.Yields handlers b)
    (hd : b.find? name = some d) :
    (∃ n, lookup name c.nodes = some n ∧ n.definition name handlers = .ok d) ∨
      ∃ f, lookup name c.flows = some f ∧ f.definition name handlers = .ok d := by
  obtain ⟨withNodes, hnodes, hflows⟩ := h
  have hnode := find?_foldlM (fun n name => NodeConfig.definition n name handlers)
    NodeConfig.definition_name hnodes name
  have hflow := find?_foldlM (fun f name => FlowConfig.definition f name handlers)
    FlowConfig.definition_name hflows name
  -- The flows are registered after the nodes, under names that are free.
  rcases hflow with hsame | ⟨-, f, d', hf, hd', hfind⟩
  · rcases hnode with hempty | ⟨-, n, d', hn, hd', hfind⟩
    · rw [hsame, hempty] at hd
      cases hd
    · rw [hsame, hfind] at hd
      cases hd
      exact .inl ⟨n, hn, hd'⟩
  · rw [hfind] at hd
    cases hd
    exact .inr ⟨f, hf, hd'⟩

theorem FlowFile.definition_of_find? (h : c.compile handlers = .ok b) (hd : b.find? name = some d) :
    (∃ n, lookup name c.nodes = some n ∧ n.definition name handlers = .ok d) ∨
      ∃ f, lookup name c.flows = some f ∧ f.definition name handlers = .ok d :=
  (compile_eq_ok_iff.1 h).2.1.definition_of_find? hd

/-! ### Parts of compiled flows -/

/-- A leaf that is made from a node has its decider. -/
theorem FlowFile.decider_of_leaf (h : c.compile handlers = .ok b) {l : Leaf}
    (hl : (Part.leaf l).IsFrom b) (hn : lookup l.name c.nodes = some n) :
    n.decider l.name handlers = .ok l.decider := by
  rcases definition_of_find? h hl with ⟨n', hn', hd⟩ | ⟨f, -, hd⟩
  · obtain ⟨decider, output, expectation, hdec, hd⟩ := NodeConfig.definition_ok hd
    cases hd
    rw [hn] at hn'
    cases hn'
    exact hdec
  · obtain ⟨decider, -, hd⟩ := FlowConfig.definition_ok hd
    cases hd

/-- A manager is made from a flow: it holds the nodes of the flow. -/
theorem FlowFile.flow_of_manager (h : c.compile handlers = .ok b) {m : Manager}
    {keys : List String} (hm : (Part.manager m keys).IsFrom b) :
    ∃ f, lookup m.name c.flows = some f ∧ f.decider handlers = .ok m.decider ∧
      ∀ key, key ∈ keys ↔ key ∈ f.nodes := by
  obtain ⟨children, description, hfind, hkeys⟩ := hm
  rcases definition_of_find? h hfind with ⟨n, -, hd⟩ | ⟨f, hf, hd⟩
  · obtain ⟨decider, output, expectation, -, hd⟩ := NodeConfig.definition_ok hd
    cases hd
  · obtain ⟨decider, hdec, hd⟩ := FlowConfig.definition_ok hd
    obtain ⟨-, rfl, -, rfl, -⟩ := Definition.manager.inj hd
    exact ⟨f, hf, hdec, hkeys⟩

end Parley.Config

import Parley.Proofs.Config.Compile
import Parley.Proofs.Flow.Validation

/-!
# Configurations that compile

Three things decide whether a configuration compiles, and each is found out by a pass of
its own: the static checks find what it says of itself (`FlowFile.IsConsistent`), the
definitions need the handlers that it names (`FlowFile.IsSupplied`), and the validation
of the root needs flows that are not below themselves.

* `FlowFile.defects_eq_nil_iff`: without static defects are the consistent configurations;
* `NodeConfig.exists_definition_iff` and `FlowConfig.exists_definition_iff`: what has a
  definition is what names registered handlers only;
* `FlowFile.Yields.isSound_iff`: in the blueprint of a consistent configuration the names
  list each other as the flows do (`FlowFile.Nests`), so that only a cycle makes a root
  unsound.

Registration cannot fail, since names are pairwise different, and all that fails is a
fault of configuration (`BlamesConfiguration`).
-/

namespace Parley

open Relation

/-! ### Faults of configuration -/

/-- If the result is a fault, it is one of configuration. -/
def BlamesConfiguration {α : Type} (r : Except Fault α) : Prop :=
  ∀ cause, r = .error cause → ∃ fault, cause = .configuration fault

section

variable {α β : Type} {x : Except Fault α} {f : α → Except Fault β}

theorem blames_ok (y : α) : BlamesConfiguration (.ok y) := nofun

theorem blames_error (fault : ConfigurationFault) :
    BlamesConfiguration (.error (.configuration fault) : Except Fault α) := by
  rintro _ ⟨⟩
  exact ⟨fault, rfl⟩

theorem BlamesConfiguration.bind (hx : BlamesConfiguration x)
    (hf : ∀ y, BlamesConfiguration (f y)) : BlamesConfiguration (x >>= f) := by
  cases x with
  | error cause => exact fun cause' h => hx cause' (by cases h; rfl)
  | ok y => exact hf y

theorem BlamesConfiguration.foldlM {g : β → α → Except Fault β}
    (hg : ∀ y z, BlamesConfiguration (g y z)) (xs : List α) (y : β) :
    BlamesConfiguration (xs.foldlM g y) := by
  induction xs generalizing y with
  | nil => exact blames_ok y
  | cons z zs ih =>
    rw [List.foldlM_cons]
    exact (hg y z).bind ih

end

namespace Blueprint

variable {b b' : Blueprint} {d : Definition} {name root : String}

theorem blames_register (b : Blueprint) (d : Definition) : BlamesConfiguration (b.register d) := by
  unfold register
  split
  · exact blames_error _
  · exact blames_ok _

theorem blames_validate (b : Blueprint) (root : String) : BlamesConfiguration (b.validate root) :=
  fun _ h => by
    obtain ⟨fault, rfl, -⟩ := validate_error h
    exact ⟨fault, rfl⟩

/-- A definition under a name that is not taken comes after the others. -/
theorem register_eq_ok_iff : b.register d = .ok b' ↔
    d.name ∉ b.names ∧ b' = ⟨b.definitions ++ [d]⟩ := by
  unfold register contains
  by_cases h : d.name ∈ b.names
  · simp [h]
  · simp [h, eq_comm]

theorem names_register (h : b.register d = .ok b') : b'.names = b.names ++ [d.name] := by
  obtain ⟨-, rfl⟩ := register_eq_ok_iff.1 h
  simp [names]

theorem exists_of_mem_names (h : name ∈ b.names) : ∃ d, b.find? name = some d := by
  obtain ⟨d, hd, rfl⟩ := List.mem_map.1 h
  exact Option.isSome_iff_exists.1 (List.find?_isSome.2 ⟨d, hd, by simp⟩)

end Blueprint

namespace Config

variable {c : FlowFile} {handlers : Handlers} {b b₀ : Blueprint} {d : Definition}
  {name child target : String} {n : NodeConfig} {f g : FlowConfig}

/-! ### Handlers -/

section

variable {α : Type} {x : α} {es : List (String × α)}

theorem lookup_eq_some_iff (h : (es.map Prod.fst).Nodup) :
    lookup name es = some x ↔ (name, x) ∈ es := by
  refine ⟨mem_of_lookup, fun hmem => ?_⟩
  induction es with
  | nil => cases hmem
  | cons e es ih =>
    rw [List.map_cons, List.nodup_cons] at h
    rw [lookup_cons]
    rcases List.mem_cons.1 hmem with rfl | hmem
    · rw [if_pos rfl]
    · rw [if_neg, ih h.2 hmem]
      intro he
      exact h.1 (List.mem_map.2 ⟨_, hmem, he.symm⟩)

theorem registry_lookup_isSome : (Registry.lookup name es).isSome ↔ name ∈ es.map Prod.fst := by
  simp [Registry.lookup]

end

theorem exists_decider_iff : (∃ d, handlers.decider name = .ok d) ↔
    name ∈ handlers.deciders.map Prod.fst := by
  rw [← registry_lookup_isSome, Registry.decider]
  cases Registry.lookup name handlers.deciders <;> simp

theorem exists_transform_iff : (∃ t, handlers.transform name = .ok t) ↔
    name ∈ handlers.transforms.map Prod.fst := by
  rw [← registry_lookup_isSome, Registry.transform]
  cases Registry.lookup name handlers.transforms <;> simp

theorem blames_decider (handlers : Handlers) (name : String) :
    BlamesConfiguration (handlers.decider name) := by
  unfold Registry.decider
  split
  · exact blames_ok _
  · exact blames_error _

theorem blames_transform (handlers : Handlers) (name : String) :
    BlamesConfiguration (handlers.transform name) := by
  unfold Registry.transform
  split
  · exact blames_ok _
  · exact blames_error _

/-- A transform that is named is registered; the empty text names none. -/
def SuppliesTransform (handlers : Handlers) (name : Option String) : Prop :=
  ∀ t, name = some t → t ≠ "" → t ∈ handlers.transforms.map Prod.fst

/-- A decision function that is named is registered. -/
def SuppliesDecider (handlers : Handlers) (name : Option String) : Prop :=
  ∀ d, name = some d → d ∈ handlers.deciders.map Prod.fst

section

variable {usual : Transform} {payload : Option Payload} {name : Option String}

theorem exists_emitter_iff : (∃ e, emitter handlers usual payload name = .ok e) ↔
    SuppliesTransform handlers name := by
  unfold emitter SuppliesTransform
  cases name with
  | none => cases payload <;> simp [transformOf, bind, Except.bind, pure, Except.pure]
  | some t =>
    by_cases ht : t = ""
    · simp [transformOf, ht, bind, Except.bind, pure, Except.pure]
    · simp only [Option.isSome_some, Bool.or_true, if_true, transformOf, String.isEmpty_iff, ht,
        if_false, Option.some.injEq, forall_eq', ne_eq, not_false_eq_true, forall_const,
        ← exists_transform_iff]
      cases handlers.transform t <;> simp [bind, Except.bind, pure, Except.pure]

theorem blames_emitter : BlamesConfiguration (emitter handlers usual payload name) := by
  unfold emitter
  split
  · refine BlamesConfiguration.bind ?_ fun _ => blames_ok _
    unfold transformOf
    split
    · exact blames_ok _
    · split
      · exact blames_ok _
      · exact blames_transform handlers _
  · exact blames_ok _

end

/-! ### Definitions -/

/-- The handlers that a node names are registered. -/
structure NodeConfig.IsSupplied (n : NodeConfig) (handlers : Handlers) : Prop where
  output : SuppliesTransform handlers n.outputTransform
  expectation : SuppliesTransform handlers n.expectationTransform
  decider : SuppliesDecider handlers n.decide

theorem NodeConfig.exists_definition_iff : (∃ d, n.definition name handlers = .ok d) ↔
    n.IsSupplied handlers := by
  have hdecider : (∃ d, n.decider name handlers = .ok d) ↔ SuppliesDecider handlers n.decide := by
    unfold decider SuppliesDecider
    cases n.decide with
    | none => simp
    | some handler => simp [exists_decider_iff]
  constructor
  · rintro ⟨d, h⟩
    obtain ⟨output, ho, h⟩ := ok_of_bind h
    obtain ⟨expectation, he, h⟩ := ok_of_bind h
    obtain ⟨decider, hd, -⟩ := ok_of_bind h
    exact ⟨exists_emitter_iff.1 ⟨_, ho⟩, exists_emitter_iff.1 ⟨_, he⟩, hdecider.1 ⟨_, hd⟩⟩
  · rintro ⟨ho, he, hd⟩
    obtain ⟨output, ho⟩ := exists_emitter_iff.2 ho
    obtain ⟨expectation, he⟩ := exists_emitter_iff.2 he
    obtain ⟨decider, hd⟩ := hdecider.2 hd
    rw [definition, bind_of_ok ho, bind_of_ok he, bind_of_ok hd]
    exact ⟨_, rfl⟩

theorem NodeConfig.blames_definition (n : NodeConfig) (name : String) (handlers : Handlers) :
    BlamesConfiguration (n.definition name handlers) := by
  refine blames_emitter.bind fun _ => blames_emitter.bind fun _ =>
    BlamesConfiguration.bind ?_ fun _ => blames_ok _
  unfold decider
  split
  · exact blames_decider handlers _
  · exact blames_ok _

theorem FlowConfig.exists_definition_iff : (∃ d, f.definition name handlers = .ok d) ↔
    SuppliesDecider handlers f.decide := by
  have hdecider : (∃ d, f.decider handlers = .ok d) ↔ SuppliesDecider handlers f.decide := by
    unfold decider SuppliesDecider
    cases f.decide with
    | none => cases f.next <;> simp
    | some handler =>
      simp only [Option.some.injEq, forall_eq', ← exists_decider_iff]
      cases handlers.decider handler <;> simp
  rw [← hdecider]
  constructor
  · rintro ⟨d, h⟩
    obtain ⟨decider, hd, -⟩ := ok_of_bind h
    exact ⟨decider, hd⟩
  · rintro ⟨decider, hd⟩
    rw [definition, bind_of_ok hd]
    exact ⟨_, rfl⟩

theorem FlowConfig.blames_definition (f : FlowConfig) (name : String) (handlers : Handlers) :
    BlamesConfiguration (f.definition name handlers) := by
  refine BlamesConfiguration.bind ?_ fun _ => blames_ok _
  unfold decider
  split
  · exact BlamesConfiguration.bind (blames_decider handlers _) fun _ => blames_ok _
  · exact blames_ok _
  · exact blames_ok _

/-! ### Registration -/

section

variable {α : Type} {es : List (String × α)} (define : α → String → Except Fault Definition)
  (hname : ∀ {x name d}, define x name = .ok d → d.name = name)

include hname

/-- Entries that have been registered had definitions, and their names come last. -/
theorem foldlM_register_ok
    (h : es.foldlM (fun b e => do b.register (← define e.2 e.1)) b₀ = .ok b) :
    b.names = b₀.names ++ es.map Prod.fst ∧ ∀ e ∈ es, ∃ d, define e.2 e.1 = .ok d := by
  induction es generalizing b₀ with
  | nil =>
    cases h
    exact ⟨(List.append_nil _).symm, nofun⟩
  | cons e es ih =>
    rw [List.foldlM_cons] at h
    obtain ⟨b₁, hb, h⟩ := ok_of_bind h
    obtain ⟨d, hd, hb⟩ := ok_of_bind hb
    obtain ⟨hnames, hall⟩ := ih h
    refine ⟨?_, List.forall_mem_cons.2 ⟨⟨d, hd⟩, hall⟩⟩
    rw [hnames, Blueprint.names_register hb, hname hd, List.append_assoc]
    rfl

/-- Entries with definitions can be registered under names that are free. -/
theorem exists_foldlM_register (hfree : ∀ e ∈ es, e.1 ∉ b₀.names) (hnodup : (es.map Prod.fst).Nodup)
    (hall : ∀ e ∈ es, ∃ d, define e.2 e.1 = .ok d) :
    ∃ b, es.foldlM (fun b e => do b.register (← define e.2 e.1)) b₀ = .ok b := by
  induction es generalizing b₀ with
  | nil => exact ⟨b₀, rfl⟩
  | cons e es ih =>
    obtain ⟨⟨d, hd⟩, hall⟩ := List.forall_mem_cons.1 hall
    obtain ⟨hfree', hfree⟩ := List.forall_mem_cons.1 hfree
    obtain ⟨hnew, hnodup⟩ := List.nodup_cons.1 hnodup
    have hregister : b₀.register d = .ok ⟨b₀.definitions ++ [d]⟩ :=
      Blueprint.register_eq_ok_iff.2 ⟨hname hd ▸ hfree', rfl⟩
    rw [List.foldlM_cons, bind_of_ok hd, bind_of_ok hregister]
    refine ih (fun e' he' hmem => ?_) hnodup hall
    -- The name is that of a definition from before, or the one just registered.
    rw [Blueprint.names_register hregister, hname hd] at hmem
    rcases List.mem_append.1 hmem with hmem | hmem
    · exact hfree e' he' hmem
    · exact hnew (List.mem_map.2 ⟨e', he', List.mem_singleton.1 hmem⟩)

end

namespace FlowFile

/-! ### Static checks -/

/-- What a configuration says of its names is consistent. -/
structure IsConsistent (c : FlowFile) : Prop where
  /-- No name is that of a node and of a flow. -/
  distinct : ∀ name ∈ c.nodeNames, name ∉ c.flowNames
  root : c.root ∈ c.flowNames
  children : ∀ f ∈ c.flows, ∀ child ∈ f.2.nodes, child ∈ c.nodeNames ∨ child ∈ c.flowNames
  /-- Nodes route to their siblings, in every flow that lists them. -/
  targets : ∀ f ∈ c.flows, ∀ n ∈ c.nodes, n.1 ∈ f.2.nodes → ∀ target ∈ n.2.targets,
    target ∈ f.2.nodes
  /-- What goes on after a flow needs a flow around both. -/
  owned : ∀ f ∈ c.flows, f.2.next ≠ none → ∃ g ∈ c.flows, f.1 ∈ g.2.nodes
  /-- Flows go on to their siblings, in every flow that lists them. -/
  next : ∀ f ∈ c.flows, ∀ target, f.2.next = some target → ∀ g ∈ c.flows, f.1 ∈ g.2.nodes →
    target ∈ g.2.nodes

theorem ambiguous_eq_nil_iff : c.ambiguous = [] ↔ ∀ name ∈ c.nodeNames, name ∉ c.flowNames := by
  constructor
  · intro h name hn hf
    have hmem : name ∈ c.ambiguous :=
      List.mem_mergeSort.2 (List.mem_filter.2 ⟨hn, List.contains_iff_mem.2 hf⟩)
    rw [h] at hmem
    cases hmem
  · intro h
    refine ambiguous_eq_nil (List.filter_eq_nil_iff.2 fun name hn hf => ?_)
    exact h name hn (List.contains_iff_mem.1 hf)

theorem mem_owners_iff {o : String × FlowConfig} :
    o ∈ c.owners child ↔ o ∈ c.flows ∧ child ∈ o.2.nodes := by
  refine ⟨fun h => ?_, fun h => mem_owners h.1 h.2⟩
  obtain ⟨g, hg, hmem⟩ := List.mem_flatMap.1 h
  obtain ⟨child', hchild, rfl⟩ := List.mem_map.1 hmem
  obtain ⟨hlisted, hsame⟩ := List.mem_filter.1 hchild
  exact ⟨hg, of_decide_eq_true hsame ▸ hlisted⟩

theorem unknownChildren_eq_nil_iff : c.unknownChildren name f = [] ↔
    ∀ child ∈ f.nodes, child ∈ c.nodeNames ∨ child ∈ c.flowNames := by
  simp [unknownChildren, isDefined, List.filter_eq_nil_iff, ← or_iff_not_imp_left]

theorem strayRoutes_eq_nil_iff (h : c.IsRegular) : c.strayRoutes name f = [] ↔
    ∀ n ∈ c.nodes, n.1 ∈ f.nodes → ∀ target ∈ n.2.targets, target ∈ f.nodes := by
  simp only [strayRoutes, List.flatMap_eq_nil_iff, List.map_eq_nil_iff]
  constructor
  · intro hall n hn hchild target ht
    have hstray := hall n.1 hchild
    rw [strayTargets, (lookup_eq_some_iff h.nodes).2 hn] at hstray
    simpa using List.filter_eq_nil_iff.1 hstray target ht
  · intro hall child hchild
    unfold strayTargets
    split
    · exact List.filter_eq_nil_iff.2 fun target ht => by
        simpa using hall _ (mem_of_lookup ‹_›) hchild target ht
    · rfl

theorem strayNext_eq_nil_iff : c.strayNext name f = [] ↔
    (f.next ≠ none → ∃ g ∈ c.flows, name ∈ g.2.nodes) ∧
    ∀ target, f.next = some target → ∀ g ∈ c.flows, name ∈ g.2.nodes → target ∈ g.2.nodes := by
  unfold strayNext
  cases f.next with
  | none => simp
  | some target =>
    by_cases hempty : c.owners name = []
    · have hnone : ¬∃ g ∈ c.flows, name ∈ g.2.nodes := fun ⟨g, hg, hmem⟩ => by
        have hg' := mem_owners_iff.2 ⟨hg, hmem⟩
        rw [hempty] at hg'
        cases hg'
      simp [hempty, hnone]
    · obtain ⟨g, hg⟩ := List.exists_mem_of_ne_nil _ hempty
      have hsome : ∃ g ∈ c.flows, name ∈ g.2.nodes := ⟨g, mem_owners_iff.1 hg⟩
      simp only [List.isEmpty_iff, hempty, if_false, List.map_eq_nil_iff, List.filter_eq_nil_iff,
        mem_owners_iff, hsome, implies_true, true_and, Option.some.injEq, forall_eq']
      simp

/-- The static checks find nothing in consistent configurations, and only in them. -/
theorem defects_eq_nil_iff (h : c.IsRegular) : c.defects = [] ↔ c.IsConsistent := by
  simp only [defects, List.append_eq_nil_iff, List.map_eq_nil_iff, List.flatMap_eq_nil_iff,
    ambiguous_eq_nil_iff, unknownChildren_eq_nil_iff, strayRoutes_eq_nil_iff h,
    strayNext_eq_nil_iff, ite_eq_left_iff, List.contains_iff_mem]
  constructor
  · rintro ⟨⟨⟨hdistinct, hroot⟩, hflows⟩, hnext⟩
    exact ⟨hdistinct, by simpa using hroot, fun f hf => (hflows f hf).1,
      fun f hf => (hflows f hf).2, fun f hf => (hnext f hf).1, fun f hf => (hnext f hf).2⟩
  · intro hc
    exact ⟨⟨⟨hc.distinct, by simp [hc.root]⟩, fun f hf => ⟨hc.children f hf, hc.targets f hf⟩⟩,
      fun f hf => ⟨hc.owned f hf, hc.next f hf⟩⟩

/-! ### Well-formed configurations -/

/-- The handlers that the nodes and the flows name are registered. -/
structure IsSupplied (c : FlowFile) (handlers : Handlers) : Prop where
  nodes : ∀ n ∈ c.nodes, n.2.IsSupplied handlers
  flows : ∀ f ∈ c.flows, SuppliesDecider handlers f.2.decide

/-- The name is that of a flow which lists the other name. -/
def Nests (c : FlowFile) (name child : String) : Prop :=
  ∃ f, (name, f) ∈ c.flows ∧ child ∈ f.nodes

/-- The configuration is consistent, all that it names is there, and no flow that is
    reached from its root is below itself. -/
structure IsWellFormed (c : FlowFile) (handlers : Handlers) : Prop extends
    c.IsConsistent, c.IsSupplied handlers where
  acyclic : ∀ name, ReflTransGen c.Nests c.root name → ¬TransGen c.Nests name name

/-! ### Their blueprints -/

namespace Yields

/-- The names are registered in the order of the sections, and each had a definition. -/
theorem names_and_definitions (h : c.Yields handlers b) :
    b.names = c.nodeNames ++ c.flowNames ∧
    (∀ n ∈ c.nodes, ∃ d, n.2.definition n.1 handlers = .ok d) ∧
    ∀ f ∈ c.flows, ∃ d, f.2.definition f.1 handlers = .ok d := by
  obtain ⟨withNodes, hnodes, hflows⟩ := h
  obtain ⟨hn, hndefs⟩ := foldlM_register_ok (fun n name => NodeConfig.definition n name handlers)
    NodeConfig.definition_name hnodes
  obtain ⟨hf, hfdefs⟩ := foldlM_register_ok (fun f name => FlowConfig.definition f name handlers)
    FlowConfig.definition_name hflows
  rw [hf, hn]
  exact ⟨rfl, hndefs, hfdefs⟩

theorem isSupplied (h : c.Yields handlers b) : c.IsSupplied handlers := by
  obtain ⟨-, hn, hf⟩ := h.names_and_definitions
  exact ⟨fun n hmem => NodeConfig.exists_definition_iff.1 (hn n hmem),
    fun f hmem => FlowConfig.exists_definition_iff.1 (hf f hmem)⟩

/-- Each flow is a manager of the blueprint that lists the nodes of the flow. -/
theorem find?_flow (h : c.Yields handlers b) (hr : c.IsRegular) (hc : c.IsConsistent)
    (hf : (name, f) ∈ c.flows) :
    ∃ decider, b.find? name = some (.manager name f.nodes f.root decider f.description) := by
  have hname : name ∈ c.flowNames := List.mem_map_of_mem (f := Prod.fst) hf
  obtain ⟨d, hd⟩ := Blueprint.exists_of_mem_names
    (h.names_and_definitions.1 ▸ List.mem_append_right c.nodeNames hname)
  rcases h.definition_of_find? hd with ⟨n, hn, -⟩ | ⟨f', hf', hdef⟩
  · -- A node with this name would make it ambiguous.
    have hnode : name ∈ c.nodeNames := List.mem_map_of_mem (f := Prod.fst) (mem_of_lookup hn)
    exact absurd hname (hc.distinct name hnode)
  · rw [(lookup_eq_some_iff hr.flows).2 hf] at hf'
    cases hf'
    obtain ⟨decider, -, rfl⟩ := FlowConfig.definition_ok hdef
    exact ⟨decider, hd⟩

/-- Names list each other as the flows do. -/
theorem lists_eq (h : c.Yields handlers b) (hr : c.IsRegular) (hc : c.IsConsistent) :
    b.Lists = c.Nests := by
  funext name child
  refine propext ⟨?_, ?_⟩
  · rintro ⟨d, hd, hchild⟩
    rcases h.definition_of_find? hd with ⟨n, -, hdef⟩ | ⟨f, hf, hdef⟩
    · obtain ⟨decider, output, expectation, -, rfl⟩ := NodeConfig.definition_ok hdef
      cases hchild
    · obtain ⟨decider, -, rfl⟩ := FlowConfig.definition_ok hdef
      exact ⟨f, mem_of_lookup hf, hchild⟩
  · rintro ⟨f, hf, hchild⟩
    obtain ⟨decider, hd⟩ := h.find?_flow hr hc hf
    exact ⟨_, hd, hchild⟩

/-- Only a cycle of flows makes the root unsound. -/
theorem isSound_iff (h : c.Yields handlers b) (hr : c.IsRegular) (hc : c.IsConsistent) :
    b.IsSound c.root ↔ ∀ name, ReflTransGen c.Nests c.root name → ¬TransGen c.Nests name name := by
  have hlists := h.lists_eq hr hc
  refine ⟨fun hs => hlists ▸ hs.acyclic, fun hacyclic => ?_⟩
  -- What is reached is the root, or a child that some flow lists.
  have hdefined (name : String) (hreach : b.Reaches c.root name) : name ∈ b.names := by
    rw [h.names_and_definitions.1, List.mem_append]
    rw [Blueprint.Reaches, hlists] at hreach
    rcases hreach.cases_tail with rfl | ⟨parent, -, f, hf, hchild⟩
    · exact .inr hc.root
    · exact hc.children _ hf name hchild
  refine ⟨?_, fun name hreach => Blueprint.exists_of_mem_names (hdefined name hreach),
    fun name d _ hd => ?_, by rwa [Blueprint.Reaches, hlists]⟩
  · obtain ⟨⟨_, f⟩, hf, rfl⟩ := List.mem_map.1 hc.root
    obtain ⟨decider, hd⟩ := h.find?_flow hr hc hf
    exact ⟨_, hd, trivial⟩
  · rcases h.definition_of_find? hd with ⟨n, -, hdef⟩ | ⟨f, hf, hdef⟩
    · obtain ⟨decider, output, expectation, -, rfl⟩ := NodeConfig.definition_ok hdef
      trivial
    · obtain ⟨decider, -, rfl⟩ := FlowConfig.definition_ok hdef
      have hroot := hr.rooted _ (mem_of_lookup hf)
      exact ⟨List.ne_nil_of_mem hroot, hroot⟩

end Yields

/-- A consistent configuration that is supplied with handlers yields a blueprint. -/
theorem exists_yields (hr : c.IsRegular) (hc : c.IsConsistent) (hs : c.IsSupplied handlers) :
    ∃ b, c.Yields handlers b := by
  have hempty : ∀ n ∈ c.nodes, n.1 ∉ Blueprint.empty.names := fun _ _ => List.not_mem_nil
  obtain ⟨withNodes, hnodes⟩ := exists_foldlM_register
    (fun n name => NodeConfig.definition n name handlers) NodeConfig.definition_name hempty hr.nodes
    fun n hn => NodeConfig.exists_definition_iff.2 (hs.nodes n hn)
  obtain ⟨hnames, -⟩ := foldlM_register_ok (fun n name => NodeConfig.definition n name handlers)
    NodeConfig.definition_name hnodes
  -- Only the nodes are registered when the flows are.
  have hfree : ∀ f ∈ c.flows, f.1 ∉ withNodes.names := fun f hf hmem => by
    rw [hnames] at hmem
    exact hc.distinct f.1 hmem (List.mem_map_of_mem (f := Prod.fst) hf)
  obtain ⟨b, hflows⟩ := exists_foldlM_register
    (fun f name => FlowConfig.definition f name handlers) FlowConfig.definition_name hfree hr.flows
    fun f hf => FlowConfig.exists_definition_iff.2 (hs.flows f hf)
  exact ⟨b, withNodes, hnodes, hflows⟩

theorem blames_compile (c : FlowFile) (handlers : Handlers) :
    BlamesConfiguration (c.compile handlers) := by
  unfold compile assemble
  split
  · refine BlamesConfiguration.bind (.foldlM (fun b n => ?_) _ _) fun withNodes =>
      BlamesConfiguration.bind (.foldlM (fun b f => ?_) _ _) fun whole =>
        (whole.blames_validate c.root).bind fun _ => blames_ok whole
    · exact (n.2.blames_definition n.1 handlers).bind b.blames_register
    · exact (f.2.blames_definition f.1 handlers).bind b.blames_register
  · exact blames_error _

/-- The configurations that compile are the well-formed ones. -/
theorem exists_compile_iff (hr : c.IsRegular) (handlers : Handlers) :
    (∃ b, c.compile handlers = .ok b) ↔ c.IsWellFormed handlers := by
  simp only [compile_eq_ok_iff, Blueprint.validate_eq_ok_iff]
  constructor
  · rintro ⟨b, hd, hy, hs⟩
    have hc := (defects_eq_nil_iff hr).1 hd
    exact ⟨hc, hy.isSupplied, (hy.isSound_iff hr hc).1 hs⟩
  · intro hw
    obtain ⟨b, hy⟩ := exists_yields hr hw.toIsConsistent hw.toIsSupplied
    exact ⟨b, (defects_eq_nil_iff hr).2 hw.toIsConsistent, hy,
      (hy.isSound_iff hr hw.toIsConsistent).2 hw.acyclic⟩

/-- Of every configuration that has been read, and for all handlers:

    * it compiles if it is well-formed, and only then;
    * otherwise it fails with a fault of configuration;
    * the names of its blueprint are those of its nodes and then of its flows, each in
      their order, and the blueprint builds a manager of the name of its root for every
      front end. -/
theorem compile_accepts_well_formed {value : Value} (h : ofValue value = .ok c)
    (handlers : Handlers) :
    ((∃ b, c.compile handlers = .ok b) ↔ c.IsWellFormed handlers) ∧
    (¬c.IsWellFormed handlers →
      ∃ fault, c.compile handlers = .error (.configuration fault)) ∧
    ∀ b, c.compile handlers = .ok b → b.names = c.nodeNames ++ c.flowNames ∧
      ∀ frontEnd, ∃ m cs, b.build c.root frontEnd = .ok (.manager m cs) ∧ m.name = c.root := by
  have hiff := exists_compile_iff (isRegular_of_ofValue h) handlers
  refine ⟨hiff, fun hw => ?_, fun b hb => ?_⟩
  · -- All that fails is a fault of configuration.
    cases hc : c.compile handlers with
    | ok b => exact absurd (hiff.1 ⟨b, hc⟩) hw
    | error cause =>
      obtain ⟨fault, rfl⟩ := blames_compile c handlers cause hc
      exact ⟨fault, rfl⟩
  · -- What has been validated can be unfolded into a flow.
    obtain ⟨-, hy, hv⟩ := compile_eq_ok_iff.1 hb
    refine ⟨hy.names_and_definitions.1, fun frontEnd => ?_⟩
    obtain ⟨e, he⟩ := Blueprint.exists_unfold_of_check (Blueprint.check_of_validate hv)
    have hbuild := Blueprint.build_of_unfold hv he frontEnd
    obtain ⟨-, -, m, cs, hm, hname⟩ := Blueprint.build_ok hbuild
    exact ⟨m, cs, hm ▸ hbuild, hname⟩

end FlowFile

/-- A configuration of two flows, one after the other, that share a node. -/
def sharedValue : Value :=
  .record [
    (.text "nodes", .record [(.text "ask", .record [(.text "store", .text "answer")])]),
    (.text "flows", .record [
      (.text "main", .record [(.text "nodes", .list [.text "first", .text "second"])]),
      (.text "first", .record [
        (.text "nodes", .list [.text "ask"]), (.text "next", .text "second")]),
      (.text "second", .record [(.text "nodes", .list [.text "ask"])])])]

/-- What it is read as. -/
def shared : FlowFile :=
  ⟨currentVersion, defaultRoot, defaultSettings,
    [("ask", ⟨none, none, none, none, some "answer", [], none, none, none⟩)],
    [("main", ⟨"", ["first", "second"], "first", none, none⟩),
      ("first", ⟨"", ["ask"], "ask", some "second", none⟩),
      ("second", ⟨"", ["ask"], "ask", none, none⟩)]⟩

theorem shared_defects : shared.defects = [] := by
  rw [FlowFile.defects, FlowFile.ambiguous_eq_nil rfl]
  rfl

theorem FlowFile.compile_accepts_shared : ofValue sharedValue = .ok shared ∧
    shared.IsWellFormed .initial ∧ ∃ b, shared.compile .initial = .ok b ∧
      b.names = ["ask", "main", "first", "second"] ∧
      ∀ frontEnd, ∃ m cs, b.build "main" frontEnd = .ok (.manager m cs) ∧ m.name = "main" := by
  have hv : ofValue sharedValue = .ok shared := rfl
  obtain ⟨hiff, -, hall⟩ := FlowFile.compile_accepts_well_formed hv .initial
  let b : Blueprint := (shared.assemble .initial).toOption.getD .empty
  have hb : shared.compile .initial = .ok b :=
    (FlowFile.compile_of_defects shared_defects).trans rfl
  exact ⟨hv, hiff.1 ⟨b, hb⟩, b, hb, hall b hb⟩

end Config

end Parley

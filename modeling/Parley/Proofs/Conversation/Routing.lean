import Parley.Proofs.Config.Compile
import Parley.Proofs.Conversation.Lasting

/-!
# Routes that a configuration declares

A flow that is built from a configuration stays made from it, whatever is called of
the conversation (`lasts_isFrom`). So what the static checks say of a node and
of the flows that list it holds of a leaf and of its holder, and a route that the
configuration declares leads to a child of the manager that is to take it
(`Task.Step.siblings_of_move`).
-/

namespace Parley

open Element

variable {file : Config.FlowFile} {handlers : Handlers} {b : Blueprint} {e : Element} {t : Task}
  {o : Outcome} {a p : Address} {key : String} {target : Value} {x : Part}

/-- The configuration says itself where the part goes: it names no decision function
    for it. -/
def Config.FlowFile.Declares (file : Config.FlowFile) : Part → Prop
  | .leaf l => ∃ n, Config.lookup l.name file.nodes = some n ∧ n.decide = none
  | .manager m _ => ∃ f, Config.lookup m.name file.flows = some f ∧ f.decide = none

/-! ### Conversations over a blueprint -/

namespace Conversation

/-- A flow stays made from the blueprint. -/
theorem lasts_isFrom (b : Blueprint) : Lasts (IsFrom b) where
  opened frontEnd state h :=
    h.of_sameDesign ((lasts_sameDesign _).opened frontEnd state (.refl _)).symm
  step _ hs h := h.of_sameDesign hs.sameDesign.symm

end Conversation

/-! ### Where declared routes lead -/

theorem Decision.task_eq_move {d : Decision} {q : Address} (h : d.task p = .move q target) :
    d.finishes = false ∧ p = q ∧ d.next = target := by
  unfold task at h
  split at h
  · cases h
  · cases h
    exact ⟨Bool.eq_false_iff.2 ‹_›, rfl, rfl⟩

/-- The holder of a part in use is made from a flow that lists the part. -/
theorem Element.InUse.exists_owner (h : e.InUse (key :: p)) (hb : file.compile handlers = .ok b)
    (he : e.IsFrom b) : ∃ m keys f, e.part? p = some (.manager m keys) ∧
      (m.name, f) ∈ file.flows ∧ key ∈ f.nodes ∧ ∀ k, k ∈ keys ↔ k ∈ f.nodes := by
  obtain ⟨m, keys, hm, -, hk⟩ := h.exists_holder
  obtain ⟨f, hf, -, hkeys⟩ := Config.FlowFile.flow_of_manager hb (he.parts hm)
  exact ⟨m, keys, f, hm, Config.mem_of_lookup hf, (hkeys key).1 hk, hkeys⟩

/-- A route that the configuration declares leads to a sibling. -/
theorem Task.Step.siblings_of_move (hb : file.compile handlers = .ok b)
    (hroute : ∀ n ∈ file.nodes, n.2.next = none ∨ n.2.branch = none) (hf : t.Fits e)
    (he : e.IsFrom b) (hx : e.part? t.element = some x) (hd : file.Declares x) (hs : t.Step e o)
    (ho : o.result = .ok (some (.move p target))) : ∃ key m keys, target = .text key ∧
      p = t.element.tail ∧ e.part? p = some (.manager m keys) ∧ key ∈ keys := by
  have hdefects := Config.FlowFile.defects_of_compile hb
  cases hs with
  | @decided q key l _ d _ hl hdec =>
    obtain ⟨hgo, rfl, hnext⟩ := Decision.task_eq_move (Option.some.inj (Except.ok.inj ho))
    obtain rfl := Option.some.inj (hx.symm.trans hl)
    -- The targets of a node are in every flow that owns it.
    obtain ⟨n, hn, hnone⟩ := hd
    have hdecider := Config.FlowFile.decider_of_leaf hb (he.parts hl) hn
    obtain ⟨k, hk, hnext'⟩ := Config.NodeConfig.next_mem_targets
      (hroute _ (Config.mem_of_lookup hn)) hnone hdecider hdec hgo
    obtain ⟨m, keys, f, hm, hflow, hkey, hkeys⟩ := InUse.exists_owner hf hb he
    rw [show l.name = key from he.named hl] at hn
    exact ⟨k, m, keys, hnext ▸ hnext', rfl, hm,
      (hkeys k).2 (Config.mem_of_mem_targets hdefects hflow hkey hn hk)⟩
  | @closed q key m _ d _ hm hdec =>
    obtain ⟨hgo, rfl, hnext⟩ := Decision.task_eq_move (Option.some.inj (Except.ok.inj ho))
    obtain rfl := Option.some.inj (hx.symm.trans hm)
    -- So is the next flow in every flow that owns the one that names it.
    obtain ⟨f, hf', hnone⟩ := hd
    obtain ⟨f', hflow, hdecider, -⟩ := Config.FlowFile.flow_of_manager hb (he.parts hm)
    rw [hf'] at hflow
    cases hflow
    obtain ⟨k, hk, hnext'⟩ := Config.FlowConfig.next_of_decision hnone hdecider hdec hgo
    obtain ⟨m', keys, g, hm', hflow, hkey, hkeys⟩ := InUse.exists_owner hf.1 hb he
    rw [show m.name = key from he.named hm] at hf'
    exact ⟨k, m', keys, hnext ▸ hnext', rfl, hm', (hkeys k).2
      (Config.mem_of_next hdefects (Config.mem_of_lookup hf') hk hflow hkey)⟩
  | asked _ _ _ ha => cases ha <;> cases ho
  | _ => cases ho

namespace Conversation

/-- Whatever is called of a conversation over a configuration: a leaf or a manager that
    has no decision function, and that routes to another element, names a child of the
    manager that takes the route, which goes on with it. -/
theorem declared_route_leads_to_sibling {value state : Value} {frontEnd : Option FrontEnd}
    {id : String} {c₀ : Conversation} {s s' : Scene} (hv : Config.ofValue value = .ok file)
    (hb : file.compile handlers = .ok b)
    (h : ofBlueprint b file.root frontEnd state id = .ok c₀) (rs : List Request)
    (ht : (s, t) ∈ c₀.performed (c₀.entries rs)) (hx : s.top.part? t.element = some x)
    (hd : file.Declares x) (hs : t.step s = (.ok (some (.move p target)), s')) :
    ∃ key m keys, target = .text key ∧ p = t.element.tail ∧
      s'.top.part? p = some (.manager m keys) ∧ key ∈ keys ∧
      ((Task.move p target).step s').1 = .ok (some (.execute p)) := by
  obtain ⟨hfresh, -, -, -, hfrom⟩ := ofBlueprint_ok h
  have hc : c₀.IsIntact := .inl hfresh
  obtain ⟨hf, he⟩ := (hc.lasts (lasts_isFrom b) hfrom _).2 _ ht
  obtain ⟨o, hstep, hy⟩ := Task.step_spec hf
  obtain ⟨log, hy⟩ := hy s.log
  obtain ⟨ho, hs'⟩ := Prod.mk.inj (hy.symm.trans hs)
  have htop : s'.top = o.top := hs' ▸ rfl
  obtain ⟨key, m, keys, rfl, hp, hm, hk⟩ := hstep.siblings_of_move hb
    (Config.routing_of_ofValue hv) hf he hx hd ho
  -- The manager that takes the route holds the same children as before.
  obtain ⟨m', hm'⟩ := hstep.sameDesign.symm.exists_manager hm
  rw [← htop] at hm'
  refine ⟨key, m', keys, rfl, hp, hm', hk, ?_⟩
  have hfits : (Task.move p (.text key)).Fits s'.top := htop ▸ hstep.fits hf ho
  obtain ⟨o', hmove, hy'⟩ := Task.step_spec hfits
  obtain ⟨log', hy'⟩ := hy' s'.log
  rw [show (Task.move p (.text key)).step s' = _ from hy']
  cases hmove with
  | strayed hm'' hstray =>
    rw [hm'] at hm''
    cases hm''
    exact absurd rfl (hstray key hk)
  | moved => rfl

end Conversation

namespace Config

/-- A configuration with two nodes, the first of which routes to the second. -/
def pairValue : Value :=
  .record [
    (.text "nodes", .record [
      (.text "ask", .record [(.text "next", .text "bye")]),
      (.text "bye", .record [])]),
    (.text "flows", .record [
      (.text "main", .record [(.text "nodes", .list [.text "ask", .text "bye"])])])]

/-- What it is read as. -/
def pair : FlowFile :=
  let silent (next : Option String) : NodeConfig :=
    ⟨none, none, none, none, none, [], next, none, none⟩
  ⟨currentVersion, defaultRoot, defaultSettings,
    [("ask", silent (some "bye")), ("bye", silent none)],
    [("main", ⟨"", ["ask", "bye"], "ask", none, none⟩)]⟩

theorem pair_defects : pair.defects = [] := by
  rw [FlowFile.defects, FlowFile.ambiguous_eq_nil rfl]
  rfl

end Config

namespace Conversation

theorem declared_route_of_pair : ∃ b c₀ s s', Config.ofValue Config.pairValue = .ok Config.pair ∧
    Config.pair.compile .initial = .ok b ∧
    ofBlueprint b Config.pair.root none (.record []) "c" = .ok c₀ ∧
    (s, .input ["ask"] .null) ∈ c₀.performed (c₀.entries [.start 2]) ∧
    (Task.input ["ask"] .null).step s = (.ok (some (.move [] (.text "bye"))), s') ∧
    ∃ key m keys, Value.text "bye" = .text key ∧ [] = (Task.input ["ask"] .null).element.tail ∧
      s'.top.part? [] = some (.manager m keys) ∧ key ∈ keys ∧
      ((Task.move [] (.text "bye")).step s').1 = .ok (some (.execute [])) := by
  let b : Blueprint := (Config.pair.assemble .initial).toOption.getD .empty
  have hv : Config.ofValue Config.pairValue = .ok Config.pair := rfl
  have hb : Config.pair.compile .initial = .ok b :=
    (Config.FlowFile.compile_of_defects Config.pair_defects).trans rfl
  have h : ofBlueprint b Config.pair.root none (.record []) "c" = .ok _ := rfl
  refine ⟨b, _, _, _, hv, hb, h, .tail _ (.tail _ (.head _)), rfl, ?_⟩
  apply declared_route_leads_to_sibling (x := .leaf _) hv hb h [.start 2]
  · exact .tail _ (.tail _ (.head _))
  · rfl
  · exact ⟨_, rfl, rfl⟩
  · rfl

end Conversation

end Parley

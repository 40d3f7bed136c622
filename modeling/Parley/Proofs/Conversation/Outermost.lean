import Parley.Proofs.Conversation.Lasting
import Parley.Proofs.Conversation.Routing

/-!
# The end of the outermost flow

The outermost manager has no parent to route to. What it does when the traversal of
its children is over can be told from the configuration, if that names no decision
function for the root flow: without a next flow the session ends, and with one the
call fails (`close_of_outermost`).

The static checks do not exclude the second case. They let the root flow name a next
one where some flow lists both, and take no notice of whether that flow is part of
the tree below the root (`Config.stranded`).
-/

namespace Parley

open Element

variable {file : Config.FlowFile} {handlers : Handlers} {b : Blueprint} {e : Element} {m : Manager}
  {keys : List String} {f : Config.FlowConfig} {target : String} {o : Outcome} {cause : Fault}

namespace Task

/-- The outermost manager ends the session if it decides to finish, and tells the front
    end; it fails if it decides to go elsewhere. -/
theorem Step.close_cases {next : Value} (hs : (Task.close []).Step e o)
    (hm : e.part? [] = some (.manager m keys))
    (hd : m.decision e.session.state = .ok ⟨next, .null⟩) (hw : next.isWritable = true) :
    (next.isNull = true ∧ o.top.session.finished = true ∧
      ((e.session.reception .ended = .ok () ∧ o.result = .ok none ∧ o.events = [.ended]) ∨
        ∃ cause, e.session.reception .ended = .error cause ∧ o.result = .error cause)) ∨
    (next.isNull = false ∧
      o.result = .error (.configuration (.routedOutside m.name next.plain))) := by
  have huniq {m' : Manager} {keys' : List String} {r : Except Fault Decision}
      (hm' : e.part? [] = some (.manager m' keys')) (hd' : m'.decision e.session.state = r) :
      m' = m ∧ r = .ok ⟨next, .null⟩ := by
    obtain ⟨rfl, -⟩ := Part.manager.inj (Option.some.inj (hm.symm.trans hm'))
    exact ⟨rfl, hd'.symm.trans hd⟩
  cases hs with
  | closeUndecided hm' hd' => cases (huniq hm' hd').2
  | closeUnmerged hm' hd' hg =>
    cases (huniq hm' hd').2
    -- There is no patch that could not be merged.
    cases hg with
    | refused hp | unlisted hp => cases hp
  | closeUnnamed hm' hd' _ hn =>
    obtain ⟨-, hdec⟩ := huniq hm' hd'
    cases hdec
    cases hw.symm.trans hn
  | ended hm' hd' _ hfin hr =>
    cases (huniq hm' hd').2
    exact .inl ⟨hfin, finished_setFinished hm, .inl ⟨hr, rfl, rfl⟩⟩
  | endRefused hm' hd' _ hfin hr =>
    cases (huniq hm' hd').2
    exact .inl ⟨hfin, finished_setFinished hm, .inr ⟨_, hr, rfl⟩⟩
  | routedOutside hm' hd' _ hfin =>
    obtain ⟨rfl, hdec⟩ := huniq hm' hd'
    cases hdec
    exact .inr ⟨hfin, rfl⟩

/-- The traversal finds a route out of the flow only where the outermost manager
    decides to go elsewhere. -/
theorem Finds.exists_decision {t : Task} {manager target : String}
    (h : t.Finds e (.configuration (.routedOutside manager target))) : ∃ m keys d,
      e.part? [] = some (.manager m keys) ∧ m.decision e.session.state = .ok d ∧
      d.finishes = false := by
  generalize hcause : Fault.configuration (.routedOutside manager target) = cause at h
  cases h with
  | routedOutside hm hd hf => exact ⟨_, _, _, hm, hd, hf⟩
  | @strayed _ m _ target =>
    rcases m.stray_cases target with hs | ⟨_, hs⟩ <;> cases hcause.trans hs
  | unsupported reply =>
    rcases Decision.unsupported_cases reply with ⟨-, hr⟩ | ⟨-, hr⟩ <;> cases hcause.trans hr
  | _ => cases hcause

end Task

namespace Conversation

variable {root id : String} {frontEnd : Option FrontEnd} {state : Value} {c₀ c : Conversation}
  {s : Scene} {t : Task}

/-- At every task the outermost manager is still the one that has been built for the
    root, from the root flow. -/
theorem outermost_of_performed (hb : file.compile handlers = .ok b)
    (h : ofBlueprint b root frontEnd state id = .ok c₀) {xs : List Entry}
    (ht : (s, t) ∈ c₀.performed xs) : t.Fits s.top ∧ ∃ m keys f,
      s.top.part? [] = some (.manager m keys) ∧ m.name = root ∧
      Config.lookup root file.flows = some f ∧ f.decider handlers = .ok m.decider := by
  obtain ⟨hfresh, -, -, -, hfrom⟩ := ofBlueprint_ok h
  have hintact : c₀.IsIntact := .inl hfresh
  obtain ⟨hfits, hfrom⟩ := (hintact.lasts (lasts_isFrom b) hfrom xs).2 _ ht
  obtain ⟨m, keys, hm, -⟩ := hfits.wired.outermost
  have hroot : m.name = root := by
    rw [← session_eq hm]
    exact session_name_of_performed h ht
  obtain ⟨f, hf, hd, -⟩ := Config.FlowFile.flow_of_manager hb (hfrom.parts hm)
  rw [hroot] at hf
  exact ⟨hfits, m, keys, f, hm, hroot, hf, hd⟩

/-- The root of a conversation over a configuration is one of its flows. -/
theorem exists_root_flow (hb : file.compile handlers = .ok b)
    (h : ofBlueprint b root frontEnd state id = .ok c₀) :
    ∃ f, Config.lookup root file.flows = some f := by
  obtain ⟨top, initial, hbuild, -⟩ := ofBlueprint_eq_ok_iff.1 h
  obtain ⟨-, hfrom, m, cs, rfl, rfl⟩ := Blueprint.build_ok hbuild
  obtain ⟨f, hf, -⟩ := Config.FlowFile.flow_of_manager hb (hfrom.parts (a := []) rfl)
  exact ⟨f, hf⟩

/-- In a conversation over a configuration whose flows name no decision functions,
    after any requests:

    * if the root flow names no next flow, then the session is over once the outermost
      manager closes, and the front end is told, unless it refuses to be; and a call
      fails for a route out of the root flow only with a fault that a handler or the
      front end has raised;
    * if it names one, then the session does not end: the call fails whenever the
      outermost manager closes. In that case some flow of the configuration lists both
      flows. -/
theorem close_of_outermost (hb : file.compile handlers = .ok b)
    (hd : ∀ f ∈ file.flows, f.2.decide = none)
    (h : ofBlueprint b file.root frontEnd state id = .ok c₀) (rs : List Request) :
    ∃ f, Config.lookup file.root file.flows = some f ∧
      (f.next = none →
        (∀ s, (s, .close []) ∈ c₀.performed (c₀.entries rs) → ∃ o : Outcome,
          (Task.close []).step.Yields s o.result (o.scene s) ∧ o.top.session.finished = true ∧
          ((o.result = .ok none ∧ o.events = [.ended]) ∨
            ∃ cause, s.top.session.reception .ended = .error cause ∧ o.result = .error cause)) ∧
        ∀ c x target cause, c₀.Calls rs c x → (x.turn c).1 = .error cause →
          cause = .configuration (.routedOutside file.root target) →
          ∃ q ∈ x.tasks c, q.1.top.Raises cause) ∧
      ∀ target, f.next = some target →
        (∀ s, (s, .close []) ∈ c₀.performed (c₀.entries rs) →
          ((Task.close []).step s).1 =
            .error (.configuration (.routedOutside file.root target))) ∧
        ∃ g ∈ file.flows, file.root ∈ g.2.nodes ∧ target ∈ g.2.nodes := by
  obtain ⟨f, hf⟩ := exists_root_flow hb h
  have hnone : f.decide = none := hd _ (Config.mem_of_lookup hf)
  have hroot {s : Scene} {t : Task} {xs : List Entry} (ht : (s, t) ∈ c₀.performed xs) :
      t.Fits s.top ∧ ∃ m keys, s.top.part? [] = some (.manager m keys) ∧ m.name = file.root ∧
        m.decision s.top.session.state = .ok ⟨Config.nameOrNull f.next, .null⟩ := by
    obtain ⟨hfits, m, keys, f', hm, hname, hf', hdecider⟩ := outermost_of_performed hb h ht
    rw [hf] at hf'
    cases hf'
    exact ⟨hfits, m, keys, hm, hname, Config.FlowConfig.decision_eq hnone hdecider _⟩
  refine ⟨f, hf, fun hnext => ⟨fun s ht => ?_, ?_⟩, fun target hnext => ⟨fun s ht => ?_, ?_⟩⟩
  · -- Without a next flow the outermost manager finishes.
    obtain ⟨hfits, m, keys, hm, -, hdec⟩ := hroot ht
    rw [hnext] at hdec
    obtain ⟨o, hs, hy⟩ := Task.step_spec hfits
    rcases hs.close_cases hm hdec rfl with ⟨-, hfin, hcases⟩ | ⟨hnull, -⟩
    · refine ⟨o, hy, hfin, ?_⟩
      rcases hcases with ⟨-, ho, hev⟩ | ⟨cause, hr, ho⟩
      · exact .inl ⟨ho, hev⟩
      · exact .inr ⟨cause, hr, ho⟩
    · cases hnull
  · rintro c x target cause hc he rfl
    have hintact : c₀.IsIntact := .inl (ofBlueprint_ok h).1
    rcases origin_of_turn (hc.isIntact hintact) he with hr | hr | ⟨q, hq, hr | hfound⟩
    · cases hr
    · cases hr
    · exact ⟨q, hq, hr⟩
    · -- The outermost manager would have decided to go elsewhere.
      obtain ⟨-, m, keys, hm, -, hdec⟩ := hroot (hc.mem_performed hq)
      obtain ⟨m', keys', d, hm', hd', hgo⟩ := hfound.exists_decision
      obtain ⟨rfl, -⟩ := Part.manager.inj (Option.some.inj (hm.symm.trans hm'))
      rw [hd', hnext] at hdec
      cases hdec
      cases hgo
  · -- With one it decides to go there, and no manager above it could move.
    obtain ⟨hfits, m, keys, hm, hname, hdec⟩ := hroot ht
    rw [hnext] at hdec
    obtain ⟨o, hs, hy⟩ := Task.step_spec hfits
    rcases hs.close_cases hm hdec rfl with ⟨hnull, -⟩ | ⟨-, ho⟩
    · cases hnull
    · obtain ⟨log, hy⟩ := hy s.log
      rw [show (Task.close []).step s = _ from hy, ho, hname]
      rfl
  · exact Config.exists_owner_of_next (Config.FlowFile.defects_of_compile hb)
      (Config.mem_of_lookup hf) hnext

/-- The flow of `pair` ends. -/
theorem close_of_pair : ∃ b c₀ s, Config.pair.compile .initial = .ok b ∧
    ofBlueprint b Config.pair.root (some .recording) (.record []) "c" = .ok c₀ ∧
    (s, .close []) ∈ c₀.performed (c₀.entries [.start 9]) ∧
    ∃ o : Outcome, (Task.close []).step.Yields s o.result (o.scene s) ∧
      o.top.session.finished = true := by
  let b : Blueprint := (Config.pair.assemble .initial).toOption.getD .empty
  have hb : Config.pair.compile .initial = .ok b :=
    (Config.FlowFile.compile_of_defects Config.pair_defects).trans rfl
  obtain ⟨c₀, h, s, hs⟩ : ∃ c₀,
      ofBlueprint b Config.pair.root (some .recording) (.record []) "c" = .ok c₀ ∧
      ∃ s, (c₀.performed (c₀.entries [.start 9])).getLast? = some (s, .close []) :=
    ⟨_, rfl, _, rfl⟩
  have hlast := List.mem_of_getLast? hs
  obtain ⟨f, hf, hends, -⟩ := close_of_outermost hb (by simp [Config.pair]) h [.start 9]
  cases hf
  obtain ⟨o, hy, hfin, -⟩ := (hends rfl).1 s hlast
  exact ⟨b, c₀, s, hb, h, hlast, o, hy, hfin⟩

end Conversation

namespace Config

/-- A configuration whose root flow names a next flow, as a child of a flow that is not
    part of the tree below the root. -/
def strandedValue : Value :=
  .record [
    (.text "root", .text "main"),
    (.text "nodes", .record [(.text "hi", .record []), (.text "bye", .record [])]),
    (.text "flows", .record [
      (.text "main", .record [
        (.text "nodes", .list [.text "hi"]), (.text "next", .text "bye")]),
      (.text "outer", .record [(.text "nodes", .list [.text "main", .text "bye"])])])]

/-- What it is read as. -/
def stranded : FlowFile :=
  let silent : NodeConfig := ⟨none, none, none, none, none, [], none, none, none⟩
  ⟨currentVersion, "main", defaultSettings, [("hi", silent), ("bye", silent)],
    [("main", ⟨"", ["hi"], "hi", some "bye", none⟩),
      ("outer", ⟨"", ["main", "bye"], "main", none, none⟩)]⟩

theorem stranded_defects : stranded.defects = [] := by
  rw [FlowFile.defects, FlowFile.ambiguous_eq_nil rfl]
  rfl

end Config

/-- It is accepted, and the call that comes to the end of its root flow fails. -/
theorem Conversation.close_of_stranded : ∃ b c₀,
    Config.ofValue Config.strandedValue = .ok Config.stranded ∧
    (∀ n ∈ Config.stranded.nodes, n.2.decide = none) ∧
    (∀ f ∈ Config.stranded.flows, f.2.decide = none) ∧
    Config.stranded.compile .initial = .ok b ∧
    ofBlueprint b Config.stranded.root (some .recording) (.record []) "c" = .ok c₀ ∧
    ((Entry.start 9).turn c₀).1 = .error (.configuration (.routedOutside "main" "bye")) := by
  let b : Blueprint := (Config.stranded.assemble .initial).toOption.getD .empty
  have hb : Config.stranded.compile .initial = .ok b :=
    (Config.FlowFile.compile_of_defects Config.stranded_defects).trans rfl
  exact ⟨b, _, rfl, by simp [Config.stranded], by simp [Config.stranded], hb, rfl, rfl⟩

end Parley

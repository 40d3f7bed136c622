import Parley.Proofs.Conversation.Lasting

/-!
# The outermost manager owns the session

Whatever is called of a conversation over a built flow, all managers below the top
stay bare. Once the conversation has been started, the elements on the active path
report to the managers that hold them, and the outermost one to nothing
(`Scene.IsLinked`), so whatever is reported on that path ends at the outermost
manager; and no call comes upon an element that is not attached, or upon a manager
without a current child (`session_of_outermost`).
-/

namespace Parley

open Element

/-- The fault of an element that is not attached, or of a manager without a current
    child. -/
def Fault.IsUnwired : Fault → Prop
  | .protocol (.leafUnassigned _) | .protocol (.emitterUnassigned _)
  | .protocol (.noCurrentNode _) => True
  | _ => False

/-- The traversal does not find such a fault. -/
theorem Task.Finds.not_isUnwired {e : Element} {t : Task} {cause : Fault} (h : t.Finds e cause) :
    ¬cause.IsUnwired := by
  cases h with
  | @strayed _ m _ target =>
    rcases m.stray_cases target with hs | ⟨_, hs⟩ <;> exact hs ▸ id
  | unsupported reply =>
    rcases Decision.unsupported_cases reply with ⟨-, hr⟩ | ⟨-, hr⟩ <;> exact hr ▸ id
  | _ => exact id

namespace Scene

variable {s : Scene} {a : Address} {t : Task}

/-- The active path leads to a leaf. All that is on it reports to the manager that
    holds it, up to the outermost one, which reports to nothing. So reports from it
    end at the outermost manager, and what is read there is the session's state. -/
structure IsLinked (s : Scene) : Prop where
  leaf : ∃ l, s.top.part? s.top.activePath.reverse = some (.leaf l)
  outermost : s.superior [] = none
  held : ∀ key a, key :: a <:+ s.top.activePath.reverse → s.superior (key :: a) = some (.manager a)
  owner : ∀ a, a <:+ s.top.activePath.reverse → s.ownerOf a = .manager []
  state : ∀ a, a <:+ s.top.activePath.reverse → s.stateFor (.manager a) = s.top.session.state

/-- All on the active path of a wired flow is in use. -/
theorem inUse_of_suffix (h : s.top.Wired) (ha : a <:+ s.top.activePath.reverse) :
    s.top.InUse a := by
  obtain ⟨hact, l, hl⟩ := h.aimed.exists_leaf
  obtain ⟨c, hc⟩ := ha
  rw [← hc] at hact hl
  rw [part?_append] at hl
  obtain ⟨x, hx, -⟩ := Option.bind_eq_some_iff.1 hl
  exact ⟨h, hact.of_append, by rw [part?, hx]; rfl⟩

theorem isLinked (h : s.top.Wired) : s.IsLinked where
  leaf := h.aimed.exists_leaf.2
  outermost := superior_nil (InUse.top h).isAttached
  held _ _ ha := superior_cons (inUse_of_suffix h ha).isAttached
  owner _ ha := ownerOf_eq (inUse_of_suffix h ha).isAttached
  state _ ha := stateFor_eq (inUse_of_suffix h ha)

/-- What a task is about is on the active path. -/
theorem element_suffix (h : t.Fits s.top) : t.element <:+ s.top.activePath.reverse := by
  obtain ⟨hact, l, hl⟩ := h.wired.aimed.exists_leaf
  exact h.inUse.active.suffix_leaf hact hl

end Scene

/-- Whoever is consulted in a step sees the state of the session. -/
theorem Task.Step.state_of_mem {e : Element} {t : Task} {o : Outcome} (hs : t.Step e o) :
    ∀ call ∈ o.calls, call.state = e.session.state := by
  have hmanager (m : Manager) : ∀ call ∈ m.consultations e.session.state,
      call.state = e.session.state := by
    unfold Manager.consultations
    cases m.decider with
    | none => simp
    | some d => simp
  cases hs with
  | undecided | unmerged | unnamed | decided =>
    intro call hc
    rw [List.mem_singleton.1 hc]
  | closeUndecided | closeUnmerged | closeUnnamed | closed | ended | endRefused | routedOutside =>
    exact hmanager _
  | _ => exact fun _ hc => absurd hc List.not_mem_nil

namespace Conversation

variable {b : Blueprint} {root id : String} {frontEnd : Option FrontEnd} {state : Value}
  {c₀ c : Conversation}

/-- What is refused out of hand comes out of turn. -/
theorem not_isUnwired_refusal (c : Conversation) (x : Entry) :
    ¬(Fault.protocol (c.refusal x)).IsUnwired := by
  cases x with
  | start => exact not_false
  | deliver =>
    unfold refusal
    cases c.started with
    | false => exact not_false
    | true => cases c.isFinished <;> exact not_false

/-- In a conversation over a built flow, after any requests, whether they have failed
    or not:

    * the managers below the top have an empty state, do not wait and are not over;
    * once the conversation has been started, its active path is linked;
    * whenever a task has been performed, the active path was linked and the task was
      about an element on it; what the task did is a step of the traversal, which
      shows, asks and merges at the outermost manager; whoever was consulted saw the
      session's state; and all below the top was bare, before and after;
    * a call fails for an element that is not attached, or for a manager without a
      current child, only with a fault that a handler or the front end has raised. -/
theorem session_of_outermost (h : ofBlueprint b root frontEnd state id = .ok c₀)
    (rs : List Request) (hc : c = c₀.afterAll rs) :
    (∀ key a m keys, c.scene.top.part? (key :: a) = some (.manager m keys) →
      m.state = [] ∧ m.awaiting = false ∧ m.finished = false) ∧
    (c.started = true → c.scene.IsLinked) ∧
    (∀ s t, (s, t) ∈ c₀.performed (c₀.entries rs) →
      s.IsLinked ∧ t.element <:+ s.top.activePath.reverse ∧ s.top.IsSoleOwner ∧
      ∃ o, t.Step s.top o ∧ t.step.Yields s o.result (o.scene s) ∧ o.top.IsSoleOwner ∧
        ∀ call ∈ o.calls, call.state = s.top.session.state) ∧
    ∀ c' x cause, c₀.Calls rs c' x → (x.turn c').1 = .error cause → cause.IsUnwired →
      ∃ q ∈ x.tasks c', q.1.top.Raises cause := by
  have hintact : c₀.IsIntact := .inl (ofBlueprint_ok h).1
  have hnew : c₀.scene.top.IsSoleOwner := by
    obtain ⟨top, initial, hbuild, -, rfl⟩ := ofBlueprint_eq_ok_iff.1 h
    exact (Blueprint.build_isSoleOwner hbuild).1
  obtain ⟨hsole, htasks⟩ := hintact.lasts lasts_isSoleOwner hnew (c₀.entries rs)
  have hafter := hintact.foldl (c₀.entries rs)
  rw [← afterAll_eq_foldl, ← hc] at hsole hafter
  refine ⟨?_, ?_, ?_, ?_⟩
  · intro key a m keys hm
    obtain ⟨hstate, ha, hf, -⟩ := hsole hm
    exact ⟨hstate, ha, hf⟩
  · exact fun hs => Scene.isLinked (hafter.wired hs)
  · intro s t hst
    obtain ⟨hfits, hbare⟩ := htasks _ hst
    obtain ⟨o, hs, hy⟩ := Task.step_spec hfits
    exact ⟨Scene.isLinked hfits.wired, Scene.element_suffix hfits, hbare, o, hs, hy,
      hs.isSoleOwner hbare, hs.state_of_mem⟩
  · intro c' x cause hx he hu
    -- Neither a refusal nor the traversal says that something is not wired.
    rcases origin_of_turn (hx.isIntact hintact) he with rfl | rfl | ⟨q, hq, hr | hfound⟩
    · exact absurd hu (not_isUnwired_refusal c' x)
    · cases hu
    · exact ⟨q, hq, hr⟩
    · exact absurd hu hfound.not_isUnwired

/-- The inner manager of `nested` has no session, while the conversation waits. -/
theorem session_of_nested : ∃ c₀ c m,
    ofBlueprint .nested "frame" (some .recording) (.record []) "c" = .ok c₀ ∧
      c = c₀.afterAll [.start 5] ∧ c.isAwaiting = true ∧
      c.scene.top.part? ["main"] = some (.manager m ["ask"]) ∧
      (m.state = [] ∧ m.awaiting = false ∧ m.finished = false) ∧ c.scene.IsLinked := by
  have h : ofBlueprint .nested "frame" (some .recording) (.record []) "c" = .ok _ := rfl
  obtain ⟨hbare, hlinked, -⟩ := session_of_outermost h [.start 5] rfl
  exact ⟨_, _, _, h, rfl, rfl, rfl, hbare "main" [] _ _ rfl, hlinked rfl⟩

end Conversation

end Parley

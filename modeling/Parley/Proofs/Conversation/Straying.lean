import Parley.Proofs.Conversation.Lasting
import Parley.Proofs.Flow.Straying

/-!
# Conversations led astray

A call that comes to a decision for a target that the manager above does not hold fails. If a
leaf has decided so, all cursors are where they have been when it was asked, however deep in the
flow it is. If a manager has decided so, it is back at its root, and the active path leads
somewhere else than before unless it has been there anyway
(`Conversation.cursors_after_stray_decision`).
-/

namespace Parley

open Element

namespace Conversation

variable {c₀ c : Conversation} {x : Entry} {r : Course} {s : Scene} {t : Task} {cause : Fault}

/-- A call that comes to a decision which leads astray fails, unless it is cut short there, and
    leaves what the decision has left. -/
theorem Performs.of_strays (h : c.Performs x r) (hq : (s, t) ∈ x.tasks c)
    (ht : t.Strays s.top cause) :
    ((x.turn c).1 = .error cause ∨ (x.turn c).1 = .error .endless) ∧
      ∃ o t', t.Step s.top o ∧ o.result = .ok (some t') ∧ (c.enter x).scene.top = o.top := by
  obtain ⟨k, r', hruns, hresult, htop⟩ := h.exists_rest hq
  obtain ⟨hfails, o, t', hs, ho, hleft⟩ := hruns.of_strays ht
  rw [hresult] at hfails
  exact ⟨hfails, o, t', hs, ho, htop.symm.trans hleft⟩

/-- In any conversation over a built flow, in any call after any requests: if the call comes to
    a task whose decision names a target that the manager above does not hold, it fails for
    want of this target, unless it is cut short first. In either case

    * all cursors, and so the active path, are as they have been at this task, if it is a leaf
      that has decided;
    * if it is a manager, it has gone back to its root, and all other cursors are as they have
      been. So the active path is as it has been if, and only if, the manager has been at its
      root already. -/
theorem cursors_after_stray_decision {b : Blueprint} {root id : String}
    {frontEnd : Option FrontEnd} {state : Value}
    (h : ofBlueprint b root frontEnd state id = .ok c₀) (rs : List Request)
    (hc : c₀.Calls rs c x) (hq : (s, t) ∈ x.tasks c) (ht : t.Strays s.top cause) :
    ((x.turn c).1 = .error cause ∨ (x.turn c).1 = .error .endless) ∧
    (∀ a v, t = .input a v → (c.enter x).scene.top.cursorAt = s.top.cursorAt ∧
      (c.enter x).activePath = s.top.activePath) ∧
    ∀ a m keys, t = .close a → s.top.part? a = some (.manager m keys) →
      (∀ b, (c.enter x).scene.top.cursorAt b = if b = a then some m.root else s.top.cursorAt b) ∧
      ((c.enter x).activePath = s.top.activePath ↔ m.cursor = some m.root) := by
  have hintact : c₀.IsIntact := .inl (ofBlueprint_ok h).1
  obtain ⟨r, hr⟩ := performs_of_admits (hc.isIntact hintact) (x.admits_of_mem_tasks hq)
  have hbefore : t.Fits s.top := hintact.fits (hc.mem_performed hq)
  have hafter : (c.enter x).scene.top.IsAimed := hr.wired.aimed
  -- Nothing moves after the decision, so the flow stays as it has left it.
  obtain ⟨hfails, o, t', hs, ho, hleft⟩ := hr.of_strays hq ht
  refine ⟨hfails, ?_, ?_⟩
  · rintro a v rfl
    have hcursors : (c.enter x).scene.top.cursorAt = s.top.cursorAt :=
      hleft ▸ hs.cursorAt_of_input
    exact ⟨hcursors, hbefore.wired.aimed.activePath_eq hafter hcursors⟩
  · rintro a m keys rfl hm
    have hcursors (b : Address) :
        (c.enter x).scene.top.cursorAt b = if b = a then some m.root else s.top.cursorAt b :=
      hleft ▸ hs.cursorAt_of_close ho hm
    refine ⟨hcursors, fun hpath => ?_, fun hroot => ?_⟩
    · -- The manager is on the active path, which leads through its cursor.
      rw [← hbefore.wired.aimed.cursorAt_of_activePath_eq hafter hbefore.inUse.active hm hpath]
      exact (hcursors a).trans (if_pos rfl)
    · -- To go back to the root is to stay there.
      refine hbefore.wired.aimed.activePath_eq hafter (funext fun b => ?_)
      rw [hcursors b]
      split
      · subst b
        exact hroot.symm.trans (cursorAt_manager hm).symm
      · rfl

end Conversation

/-- A manager that asks at its second leaf, which replies as given, and then leads to what is not
    there. -/
def Blueprint.straying (reply : Reply) : Blueprint :=
  ⟨[.leaf "a" { reply := fun _ _ => .ok (.decision (.goto (.text "b") [])) } none none,
    .leaf "b" { reply := fun _ _ => .ok reply } none (some ⟨some (.text "Well?"), .identity⟩),
    .manager "inner" ["a", "b"] "a"
      (some { reply := fun _ _ => .ok (.decision (.goto (.text "nowhere") [])) }) "",
    .manager "main" ["inner"] "inner" none ""]⟩

namespace Conversation

/-- The reply to the answer can lead astray. -/
theorem exists_stray_leaf : ∃ c₀ c s m,
    ofBlueprint (.straying (.decision (.goto (.text "nowhere") []))) "main" (some .recording)
      (.record []) "c" = .ok c₀ ∧
    c₀.Calls [.start 9, .deliver 9 .null] c (.deliver 9 .null) ∧
    (s, .input ["b", "inner"] .null) ∈ (Entry.deliver 9 .null).tasks c ∧
    s.top.part? ["inner"] = some (.manager m ["a", "b"]) ∧ m.name = "inner" ∧
    s.top.activePath = ["inner", "b"] ∧
    (Task.input ["b", "inner"] .null).Strays s.top (m.stray (.text "nowhere")) := by
  refine ⟨_, _, _, _, rfl, ⟨[.start 9], [], rfl, rfl⟩, List.mem_of_getElem? (i := 2) rfl, rfl, rfl,
    rfl, ?_⟩
  have hstray : ∀ key ∈ ["a", "b"], (Decision.goto (.text "nowhere") []).next ≠ .text key := by
    simp [Decision.goto]
  exact .leaf rfl rfl (.nothing rfl) rfl rfl rfl hstray

/-- Then the call fails, and the active path is as it has been. -/
theorem active_path_after_stray_leaf : ∃ c₀ c,
    ofBlueprint (.straying (.decision (.goto (.text "nowhere") []))) "main" (some .recording)
      (.record []) "c" = .ok c₀ ∧
    c₀.Calls [.start 9, .deliver 9 .null] c (.deliver 9 .null) ∧
    (∃ cause, ((Entry.deliver 9 .null).turn c).1 = .error cause ∧
      (cause = .configuration (.unknownNode "inner" "nowhere") ∨ cause = .endless)) ∧
    (c.enter (.deliver 9 .null)).activePath = ["inner", "b"] := by
  obtain ⟨c₀, c, s, m, h, hc, hq, -, hname, hpath, ht⟩ := exists_stray_leaf
  obtain ⟨hfails, hleaf, -⟩ := cursors_after_stray_decision h _ hc hq ht
  have hcause : m.stray (.text "nowhere") = .configuration (.unknownNode "inner" "nowhere") := by
    rw [Manager.stray, hname]
    rfl
  refine ⟨c₀, c, h, hc, ?_, (hleaf _ _ rfl).2.trans hpath⟩
  rcases hfails with hfails | hfails
  · exact ⟨_, hfails, .inl hcause⟩
  · exact ⟨_, hfails, .inr rfl⟩

/-- If it is the manager that leads astray, the active path is another one after the failure. -/
theorem active_path_after_stray_manager : ∃ c₀ c s,
    ofBlueprint (.straying .nothing) "main" (some .recording) (.record []) "c" = .ok c₀ ∧
    c₀.Calls [.start 9, .deliver 9 .null] c (.deliver 9 .null) ∧
    (s, .close ["inner"]) ∈ (Entry.deliver 9 .null).tasks c ∧
    (Task.close ["inner"]).Strays s.top (s.top.session.stray (.text "nowhere")) ∧
    s.top.activePath = ["inner", "b"] ∧
    ((Entry.deliver 9 .null).turn c).1 =
      .error (.configuration (.unknownNode "main" "nowhere")) ∧
    (c.enter (.deliver 9 .null)).activePath = ["inner", "a"] := by
  refine ⟨_, _, _, rfl, ⟨[.start 9], [], rfl, rfl⟩, List.mem_of_getElem? (i := 3) rfl, ?_, rfl, rfl,
    rfl⟩
  have hstray : ∀ key ∈ ["inner"], (Decision.goto (.text "nowhere") []).next ≠ .text key := by
    simp [Decision.goto]
  exact .manager rfl rfl (.nothing rfl) rfl rfl rfl hstray

end Conversation

end Parley

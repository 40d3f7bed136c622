import Parley.Proofs.Conversation.Lasting
import Parley.Proofs.Flow.Entering

/-!
# Flows start from their roots

Between any two calls of a conversation, all managers that are not on the active path
have their cursors at their roots: in a new flow all of them have, and of a flow in use
it is part of the wiring (`Conversation.IsIntact.rewound`). It does not matter which
calls have failed, or where.

The session is not over while tasks are performed (`Conversation.performed_unfinished`),
so a move leads down to the leaf at which the child starts. Once it is over, the managers
below the outermost one stay back at their roots
(`Conversation.IsIntact.rewoundBelow_of_finished`).
-/

namespace Parley

open Element

variable {c c₀ : Conversation} {x : Entry} {a : Address} {m : Manager} {keys : List String}

namespace Conversation

/-- What is not on the active path is at its root. -/
theorem IsIntact.rewound (h : c.IsIntact) (hm : c.scene.top.part? a = some (.manager m keys))
    (ha : ¬a <:+ c.activePath.reverse) : m.cursor = some m.root := by
  rcases h with h | ⟨-, hw⟩
  · obtain ⟨-, -, hc, -⟩ := h.new hm
    exact hc
  · exact hw.rewound hm fun hact => ha (hw.aimed.isActive_iff.1 hact)

/-- A flow that an entry is to run is not over. -/
theorem IsIntact.unfinished_flowFor (h : c.IsIntact) (ha : c.admits x = true) :
    (c.flowFor x).session.finished = false := by
  cases x with
  | start limit =>
    have hs : c.started = false := by simpa [admits] using ha
    rcases h with h | ⟨h, -⟩
    · exact h.inFlight_opened.unsettled.2
    · rw [h] at hs
      cases hs
  | deliver limit v =>
    obtain ⟨⟨hs, hf⟩, -⟩ : (c.started = true ∧ c.isFinished = false) ∧ c.isAwaiting = true := by
      simpa [admits, accepts] using ha
    rwa [isFinished_eq (h.wired hs)] at hf

/-- The session is not over when a task is performed. -/
theorem performed_unfinished (h : c.IsIntact) (xs : List Entry) :
    ∀ q ∈ c.performed xs, q.1.top.session.finished = false := by
  refine forall_performed (P := IsIntact) (I := fun e _ => e.session.finished = false) ?_
    (fun hf hs ho => hs.unfinished hf ho) h xs
  intro c x h ha
  obtain ⟨r, hr⟩ := performs_of_admits h ha
  exact ⟨h.enter x, r, hr, h.unfinished_flowFor ha⟩

/-- Once the session is over, all managers below the outermost one are at their roots. -/
theorem IsIntact.rewoundBelow_of_finished (h : c.IsIntact)
    (hc : c.isFinished = true → c.scene.top.RewoundBelow []) (xs : List Entry)
    (hf : (xs.foldl Conversation.enter c).isFinished = true) :
    (xs.foldl Conversation.enter c).scene.top.RewoundBelow [] := by
  refine (foldl_enter (P := fun c => c.IsIntact ∧ (c.isFinished = true →
    c.scene.top.RewoundBelow [])) ?_ ⟨h, hc⟩ xs).2 hf
  intro c x ⟨h, _⟩ ha
  refine ⟨h.enter x, fun hf => ?_⟩
  -- The session was not over before, so it is this call that ends it.
  obtain ⟨r, hr⟩ := performs_of_admits h ha
  rw [isFinished_eq hr.wired] at hf
  rw [hr.top] at hf ⊢
  exact hr.runs.rewoundBelow_of_finished hr.fits (h.unfinished_flowFor ha) hf

/-- After every history of calls, whether they have failed or not and whatever the front
    end does:

    * each manager that is not on the active path has its cursor at its root;
    * each time a manager has moved to a child, only managers have been executed until
      the leaf at which the child starts is: the one that is found in the flow as it was
      built by following the roots down from the child;
    * if the session is over, each manager below the outermost one has its cursor at its
      root. -/
theorem flows_start_from_their_roots {b : Blueprint} {root id : String}
    {frontEnd : Option FrontEnd} {state : Value}
    (h : ofBlueprint b root frontEnd state id = .ok c₀) (rs : List Request) :
    (∀ a m keys, (c₀.afterAll rs).scene.top.part? a = some (.manager m keys) →
      ¬a <:+ (c₀.afterAll rs).activePath.reverse → m.cursor = some m.root) ∧
    (∀ s p target t s₁, (s, .move p target) ∈ c₀.performed (c₀.entries rs) →
      (Task.move p target).step s = (.ok (some t), s₁) →
      ∃ key ts b l s', target = .text key ∧ c₀.scene.top.StartsAt (key :: p) b ∧
        (Task.move p target).Leads s (.move p target :: ts) (.ok (some (.execute b))) s' ∧
        s'.top.part? b = some (.leaf l) ∧
        ∀ t ∈ ts, ∃ a m keys, t = .execute a ∧ s'.top.part? a = some (.manager m keys)) ∧
    ((c₀.afterAll rs).isFinished = true → ∀ key a m keys,
      (c₀.afterAll rs).scene.top.part? (key :: a) = some (.manager m keys) →
      m.cursor = some m.root) := by
  obtain ⟨hfresh, -⟩ := ofBlueprint_ok h
  have hc : c₀.IsIntact := .inl hfresh
  rw [afterAll_eq_foldl]
  refine ⟨fun a m keys hm ha => (hc.foldl _).rewound hm ha, ?_, fun hf key a m keys hm => ?_⟩
  · intro s p target t s₁ ht hstep
    obtain ⟨hfit, hsame⟩ := (hc.lasts (lasts_sameDesign c₀.scene.top) (.refl _) _).2 _ ht
    obtain ⟨key, ts, b, l, s', hkey, hb, hleads⟩ :=
      Task.exists_leads_of_move hfit (performed_unfinished hc _ _ ht) hstep
    exact ⟨key, ts, b, l, s', hkey, hb.of_sameDesign hsame, hleads⟩
  · -- A new conversation is not over.
    have hnew : c₀.isFinished = true → c₀.scene.top.RewoundBelow [] := fun hf => by
      rw [hfresh.isFinished] at hf
      cases hf
    have hrew := hc.rewoundBelow_of_finished hnew _ hf
    exact hrew (c := key :: a) (List.cons_ne_nil key a) (by rwa [List.append_nil])

end Conversation

/-- A manager over a flow of two leaves that routes to itself once it is over. -/
def Blueprint.looping : Blueprint :=
  ⟨[.leaf "ask" { reply := fun _ _ => .ok (.decision (.goto (.text "more") [])) } none
      (some ⟨some (.text "Well?"), .identity⟩),
    .leaf "more" { reply := fun _ _ => .ok .nothing } none none,
    .manager "loop" ["ask", "more"] "ask"
      (some { reply := fun _ _ => .ok (.decision (.goto (.text "loop") [])) }) "",
    .manager "main" ["loop"] "loop" none ""]⟩

namespace Conversation

theorem restart_of_looping : ∃ c₀ s s₁,
    ofBlueprint .looping "main" (some .recording) (.record []) "c" = .ok c₀ ∧
    (s, .move [] (.text "loop")) ∈ c₀.performed (c₀.entries [.start 2, .deliver 11 .null]) ∧
    (Task.move [] (.text "loop")).step s = (.ok (some (.execute [])), s₁) ∧
    ∃ key ts b l s', Value.text "loop" = .text key ∧ c₀.scene.top.StartsAt [key] b ∧
      (Task.move [] (.text "loop")).Leads s (.move [] (.text "loop") :: ts)
        (.ok (some (.execute b))) s' ∧
      s'.top.part? b = some (.leaf l) ∧
      ∀ t ∈ ts, ∃ a m keys, t = .execute a ∧ s'.top.part? a = some (.manager m keys) := by
  have h : ofBlueprint .looping "main" (some .recording) (.record []) "c" = .ok _ := rfl
  refine ⟨_, _, _, h, List.mem_of_getElem? (i := 11) rfl, rfl, ?_⟩
  exact (flows_start_from_their_roots h [.start 2, .deliver 11 .null]).2.1 _ _ _ _ _
    (List.mem_of_getElem? (i := 11) rfl) rfl

end Conversation

end Parley

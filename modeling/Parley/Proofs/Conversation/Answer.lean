import Parley.Proofs.Conversation.Session
import Parley.Proofs.Flow.Consultation

/-!
# Who gets the answer

While a conversation waits, its active path leads to the leaf that asked last,
the only busy one, and that leaf is the one to decide on the next input. Nobody
else gets an input in the same turn (`answer_goes_to_asker`).
-/

namespace Parley

open Element

namespace Conversation

variable {c : Conversation} {x : Entry} {r : Course} {a : Address} {ts : List (Scene × Task)}

/-- Where a conversation waits, the last task that has been performed is the one in
    which the leaf asked. -/
def HasAsked (c : Conversation) (ts : List (Scene × Task)) : Prop :=
  ∀ a, c.scene.top.WaitsAt a →
    ∃ s, ts.getLast? = some (s, .execute a) ∧ SameSkeleton s.top c.scene.top

/-- A call that is taken ends with a question if the conversation waits then. -/
theorem Takes.hasAsked (ht : c.Takes x r) (hr : c.IsReceptive) :
    (c.enter x).HasAsked (ts ++ x.tasks c) := by
  intro a ha
  cases hc : (x.turn c).1 with
  | error cause =>
    obtain ⟨-, hu⟩ := ht.of_error hr hc
    rw [IsUnsettled, ha.awaiting] at hu
    cases hu.1
  | ok =>
    rw [ht.top] at ha ⊢
    cases ht.ending with
    | @asked e b _ hlast hsame hb =>
      -- The flow waits for one leaf only.
      obtain rfl := ha.eq hb
      rw [← ht.tasks, List.getLast?_map, Option.map_eq_some_iff] at hlast
      obtain ⟨⟨s, t⟩, hlast, hst⟩ := hlast
      cases hst
      refine ⟨s, ?_, hsame⟩
      rw [List.getLast?_append, hlast]
      rfl
    | ended _ ho =>
      have hw := ha.awaiting
      rw [ho.awaiting] at hw
      cases hw
    | failed he =>
      rw [ht.result, he] at hc
      cases hc

/-- A fresh conversation does not wait. -/
theorem IsFresh.hasAsked (h : c.IsFresh) : c.HasAsked [] := by
  intro a ha
  have hw := h.isAwaiting
  rw [isAwaiting_eq ha.wired, ha.awaiting] at hw
  cases hw

theorem HasAsked.foldl (h : c.HasAsked ts) (hp : c.Phase) (hr : c.IsReceptive) (xs : List Entry) :
    (xs.foldl Conversation.enter c).HasAsked (ts ++ c.performed xs) := by
  induction xs generalizing c ts with
  | nil => rw [performed, List.append_nil]; exact h
  | cons x xs ih =>
    rw [List.foldl_cons, performed]
    cases ha : c.admits x with
    | false =>
      rw [x.enter_of_refused ha, x.tasks_of_refused ha]
      exact ih h hp hr
    | true =>
      obtain ⟨r, ht⟩ := takes_of_admits hp ha
      rw [← List.append_assoc]
      exact ih (ht.hasAsked hr) ht.phase (hr.enter hp x)

/-- In a conversation over a built flow with a front end that takes all it is
    told, after any requests:

    * if the conversation waits for an input, its active path leads to a leaf that
      has something to ask and waits for the answer, no other leaf is busy, and
      the last task performed was to execute it, when it asked;
    * an input that is delivered then goes to the decider of this leaf, with the
      state as it is, and all who are consulted after it get an empty input or
      none, unless the tasks allowed do not even suffice to reach the leaf;
    * if the conversation is over no leaf is busy. -/
theorem answer_goes_to_asker {b : Blueprint} {root id : String} {frontEnd : FrontEnd}
    {state : Value} {c₀ c : Conversation} (hf : ∀ e, frontEnd.refusal e = none)
    (h : ofBlueprint b root (some frontEnd) state id = .ok c₀) (rs : List Request)
    (hc : c = c₀.afterAll rs) :
    (c.isAwaiting = true → ∃ l,
      c.scene.top.part? c.activePath.reverse = some (.leaf l) ∧
      l.expectation.isSome ∧ l.status = .awaitingInput ∧
      (∀ a l', c.scene.top.part? a = some (.leaf l') → l'.IsBusy → a = c.activePath.reverse) ∧
      (∃ s l₀, (c₀.performed (c₀.entries rs)).getLast? =
          some (s, .execute c.activePath.reverse) ∧
        s.top.part? c.activePath.reverse = some (.leaf l₀) ∧ l₀.expectation = l.expectation) ∧
      ∀ limit v,
        (limit < c.activePath.length ∧
          ((Entry.deliver limit v).turn c).1 = .error .endless) ∨
        ∃ rest, (c.enter (.deliver limit v)).scene.calls =
            c.scene.calls ++ ⟨l.name, l.decider.label, some v, c.state⟩ :: rest ∧
          ∀ call ∈ rest, call.input = none ∨ call.input = some .null) ∧
    (c.isFinished = true → ∀ a l, c.scene.top.part? a = some (.leaf l) → ¬l.IsBusy) := by
  obtain ⟨hfresh, hfe, -⟩ := ofBlueprint_ok h
  have hr : c₀.IsReceptive := ⟨frontEnd, hfe, hf⟩
  have hp : c.Phase := hc ▸ Phase.afterAll (.fresh hfresh) hr rs
  refine ⟨fun hw => ?_, fun hfin => ?_⟩
  · obtain ⟨hs, a, ha⟩ := hp.waitsAt hw
    obtain ⟨l, hl, hexp, hstatus⟩ := ha.asker
    -- The leaf that waits is the active one.
    have hpath : c.activePath.reverse = a := by
      rw [activePath, activePath_eq_reverse ha.active hl, List.reverse_reverse]
    have hasked := hfresh.hasAsked.foldl (.fresh hfresh) hr (c₀.entries rs)
    rw [List.nil_append, ← afterAll_eq_foldl, ← hc] at hasked
    obtain ⟨s, hlast, hsame⟩ := hasked a ha
    obtain ⟨status, hl₀⟩ := hsame.symm.leaf hl
    rw [hpath]
    refine ⟨l, hl, hexp, hstatus, fun b l' hl' hb => ?_, ⟨s, _, hlast, hl₀, rfl⟩,
      fun limit v => ?_⟩
    · exact (ha.calm hl' hb).eq_of_leaf hl' ha.active hl
    · obtain ⟨r, ht⟩ := takes_of_admits (x := .deliver limit v) hp (accepts_of_waitsAt hs ha)
      -- The input goes down to it, unless the tasks run out on the way.
      obtain ⟨log, he⟩ := ht.enter
      rcases Task.Runs.calls_of_waitsAt ht.runs ha hl with ⟨hn, hr⟩ | ⟨rest, hrest, hidle⟩
      · rw [← hpath, List.length_reverse] at hn
        exact .inl ⟨hn, ht.result.trans hr⟩
      · refine .inr ⟨rest, ?_, hidle⟩
        rw [he, Conversation.state, Scene.stateFor_eq (InUse.top ha.wired), hrest]
        rfl
  · exact (hp.isOver hfin).2.calm

theorem answer_goes_to_single : ∃ c₀ c l,
    ofBlueprint .single "main" (some .recording) (.record []) "c" = .ok c₀ ∧
      c = c₀.afterAll [.start 5] ∧ c.isAwaiting = true ∧
      c.scene.top.part? c.activePath.reverse = some (.leaf l) ∧ l.status = .awaitingInput := by
  have h : ofBlueprint .single "main" (some .recording) (.record []) "c" = .ok _ := rfl
  obtain ⟨hwait, -⟩ := answer_goes_to_asker (fun _ => rfl) h [.start 5] rfl
  obtain ⟨l, hl, -, hs, -⟩ := hwait rfl
  exact ⟨_, _, l, h, rfl, rfl, hl, hs⟩

end Conversation

end Parley

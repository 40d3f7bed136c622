import Parley.Proofs.Conversation.Lasting
import Parley.Proofs.Flow.Reply

/-!
# Replies in a conversation

Whatever a decider replies in the course of a conversation, the reply is carried out, or it is
reported as a fault of configuration, unless its patch or its target does not fit the use made
of it, or the report would have to write what cannot be written
(`Conversation.replies_are_handled`). Such a misfit is reported as a misuse
(`Conversation.misuse_of_patching`): only the outer form of a reply is checked before it is
used.
-/

namespace Parley

open Element

namespace Conversation

variable {c₀ : Conversation} {s : Scene} {t : Task} {reply : Reply}

/-- In a conversation over a built flow, after any requests, let a decider return `reply` at a
    task. Then the reply is handled, by that task and a move at most, and no element is executed
    meanwhile:

    * if this fails, the turn fails with the same fault, and nothing else is done in it;
    * the fault is one of configuration, or a misuse by what does not fit in the reply, or the
      one with which the front end refuses to be told of the end;
    * a misuse it is whenever something does not fit;
    * all fits a state with textual keys if the reply is proper: it stands for a decision that
      hands over such keys only, and names a target that can be a key and be written, or it
      stands for none and can be written itself. -/
theorem replies_are_handled {b : Blueprint} {root id : String} {frontEnd : Option FrontEnd}
    {state : Value} (h : ofBlueprint b root frontEnd state id = .ok c₀) (rs : List Request)
    (ht : (s, t) ∈ c₀.performed (c₀.entries rs)) (hr : t.Receives s.top reply) : ∃ ts r s',
      t.Leads s ts r s' ∧ t.Handles s.top reply r ∧ (∀ t' ∈ ts, ∀ a, t' ≠ .execute a) ∧
      (∀ cause, r = .error cause →
        (∀ n, t.run (ts.length + n) s = (.error cause, s')) ∧
        ((∃ c, cause = .configuration c) ∨
          (∃ c, cause = .misuse c ∧ reply.Misfits s.top.session.state t.holder?.isSome c) ∨
          s.top.session.reception .ended = .error cause)) ∧
      (∀ c, reply.Misfits s.top.session.state t.holder?.isSome c → r = .error (.misuse c)) ∧
      (s.top.session.state.IsTextual → reply.IsProper →
        ∀ c, ¬reply.Misfits s.top.session.state t.holder?.isSome c) := by
  have hc : c₀.IsIntact := .inl (ofBlueprint_ok h).1
  obtain ⟨ts, r, s', hleads, hhandles, hts⟩ := hr.isHandled (hc.fits ht)
  refine ⟨ts, r, s', hleads, hhandles, fun t' ht' a => ?_, ?_, fun _ => hhandles.eq_of_misfits,
    fun hs hp _ => hp.not_misfits hs⟩
  · rcases hts t' ht' with rfl | ⟨p, target, rfl⟩
    · cases hr <;> exact nofun
    · exact nofun
  · rintro cause rfl
    exact ⟨fun n => hleads.run_eq n, hhandles.error_cases⟩

end Conversation

/-- A flow of one leaf, which hands over a list of numbers in place of a patch. -/
def Blueprint.patching : Blueprint :=
  ⟨[.leaf "ask"
      { reply := fun _ _ => .ok (.value (.record [(.text "state_patch", .list [.int 1])])) }
      none none,
    .manager "main" ["ask"] "ask" none ""]⟩

namespace Conversation

/-- To start it makes the leaf decide, in an empty state. -/
theorem exists_input_of_patching : ∃ c₀ s,
    ofBlueprint .patching "main" (some .recording) (.record []) "c" = .ok c₀ ∧
    (s, .input ["ask"] .null) ∈ c₀.performed (c₀.entries [.start 5]) ∧
    s.top.session.state = [] ∧
    (Task.input ["ask"] .null).Receives s.top
      (.value (.record [(.text "state_patch", .list [.int 1])])) ∧
    ((Entry.start 5).turn c₀).1 = .error (.misuse .kind) := by
  refine ⟨_, _, rfl, List.mem_of_getElem? (i := 2) rfl, rfl, ?_, rfl⟩
  exact .leaf rfl rfl

/-- The reply stands for a decision whose patch does not fit, and is handled as a misuse. -/
theorem replies_of_patching : ∃ c₀ s reply ts s',
    ofBlueprint .patching "main" (some .recording) (.record []) "c" = .ok c₀ ∧
    (s, .input ["ask"] .null) ∈ c₀.performed (c₀.entries [.start 5]) ∧
    (Task.input ["ask"] .null).Receives s.top reply ∧
    reply.Misfits s.top.session.state true .kind ∧
    (Task.input ["ask"] .null).Leads s ts (.error (.misuse .kind)) s' ∧
    ∀ n, (Task.input ["ask"] .null).run (ts.length + n) s = (.error (.misuse .kind), s') := by
  obtain ⟨c₀, s, h, ht, hs, hr, -⟩ := exists_input_of_patching
  obtain ⟨ts, r, s', hleads, -, -, hfails, hmisuse, -⟩ := replies_are_handled h [.start 5] ht hr
  have hm : Reply.Misfits (.value (.record [(.text "state_patch", .list [.int 1])]))
      s.top.session.state true .kind := .patch rfl (.refused rfl rfl)
  obtain rfl := hmisuse _ hm
  exact ⟨c₀, s, _, ts, s', h, ht, hr, hm, hleads, (hfails _ rfl).1⟩

/-- A reply that is malformed inside makes the call fail as a misuse, not as a fault of
    configuration, in a state with textual keys. -/
theorem misuse_of_patching : ∃ c₀ s,
    ofBlueprint .patching "main" (some .recording) (.record []) "c" = .ok c₀ ∧
    (s, .input ["ask"] .null) ∈ c₀.performed (c₀.entries [.start 5]) ∧
    s.top.session.state.IsTextual ∧
    (Task.input ["ask"] .null).Receives s.top
      (.value (.record [(.text "state_patch", .list [.int 1])])) ∧
    ((Entry.start 5).turn c₀).1 = .error (.misuse .kind) := by
  obtain ⟨c₀, s, h, ht, hs, hr, hfails⟩ := exists_input_of_patching
  exact ⟨c₀, s, h, ht, hs ▸ List.forall_mem_nil _, hr, hfails⟩

end Conversation

end Parley

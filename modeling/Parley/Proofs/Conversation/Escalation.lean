import Parley.Proofs.Conversation.Restart
import Parley.Proofs.Flow.Passage

/-!
# Ends of traversals

When a leaf decides to go nowhere, the managers above it are asked one after the other
where to go, as `Element.Escalates` says: in the course of any call, from any state that
earlier calls have led to (`Conversation.end_of_traversal_escalates`).

If nobody goes anywhere the session is over, and a conversation whose session is over
takes no further call (`Conversation.admits_of_finished`).
-/

namespace Parley

open Element

namespace Conversation

variable {c c₀ : Conversation} {s : Scene} {key : String} {p : Address} {v : Value} {l : Leaf}
  {d : Decision} {st : Mapping}

/-- A conversation whose session is over refuses every call. -/
theorem admits_of_finished (hs : c.started = true) (hf : c.isFinished = true) (x : Entry) :
    c.admits x = false := by
  cases x with
  | start => simp [admits, hs]
  | deliver => simp [admits, accepts, hf]

/-- If the front end takes all that it is told, and a leaf decides to go nowhere and
    hands over what can be merged, then in the course of any call:

    * the managers above the leaf are asked as `Escalates` says, from the innermost one
      on and without a gap, each in the state that the leaf and those before it have
      left, until one names a target or the outermost one is reached;
    * these are the tasks that follow, and the run goes on with what they come to: the
      holder of the last one moves to the target, the session is over, or the call
      fails because nothing holds the target;
    * the leaf and the managers asked are all that is consulted;
    * the front end is told of the end, once, if the outermost manager ends the session,
      and otherwise is told nothing;
    * the session is over if the outermost manager has ended it, and only then, and no
      further call is taken then;
    * no manager fails if all keys are texts and all managers above the leaf decide. -/
theorem end_of_traversal_escalates {b : Blueprint} {root id : String} {frontEnd : FrontEnd}
    {state : Value} (h : ofBlueprint b root (some frontEnd) state id = .ok c₀)
    (hfront : ∀ e, frontEnd.refusal e = none) (rs : List Request)
    (ht : (s, .input (key :: p) v) ∈ c₀.performed (c₀.entries rs))
    (hl : s.top.part? (key :: p) = some (.leaf l))
    (hd : l.decider.decision (some v) s.top.session.state = .ok d) (hfin : d.finishes = true)
    (hm : Merges s.top.session.state d.patch (.ok ()) st) : ∃ x s',
      s.top.Escalates p st x ∧ x.asked <+: p.tails ∧
      (Task.input (key :: p) v).Leads s (.input (key :: p) v :: x.asked.map .close)
        x.exit.result s' ∧
      (∀ n, (Task.input (key :: p) v).run (x.asked.length + 1 + n) s =
        Task.resume n x.exit.result s') ∧
      s'.calls = s.calls ++ ⟨l.name, l.decider.label, some v, s.top.session.state⟩ :: x.calls ∧
      s'.top.session.state = x.state ∧
      s'.events = s.events ++ x.exit.events ∧
      (∀ c : Conversation, c.scene.top = s'.top → (c.isFinished = true ↔ x.exit = .ended)) ∧
      (∀ c : Conversation, c.scene.top = s'.top → c.started = true → x.exit = .ended →
        ∀ entry, c.admits entry = false) ∧
      (st.IsTextual → (∀ a m keys, a <:+ p → s.top.part? a = some (.manager m keys) →
        m.IsReliable) → ∀ cause, x.exit ≠ .failed cause) := by
  obtain ⟨hfresh, hfront', -⟩ := ofBlueprint_ok h
  have hc : c₀.IsIntact := .inl hfresh
  have hr : s.top.session.IsReceptive :=
    performed_isReceptive (.fresh hfresh) ⟨frontEnd, hfront', hfront⟩ _ _ ht
  obtain ⟨x, s', hx, hleads, hcalls, hevents, hstate, hw, hover⟩ :=
    Task.exists_escalation_of_input (hc.fits ht) hr (performed_unfinished hc _ _ ht) hl hd hfin hm
  have hfinished (c : Conversation) (htop : c.scene.top = s'.top) :
      c.isFinished = true ↔ x.exit = .ended := by
    rw [isFinished_eq (htop ▸ hw), htop, hover]
  refine ⟨x, s', hx, hx.asked_prefix, hleads, fun n => ?_, hcalls, hstate, hevents, hfinished,
    fun c htop hs hend => admits_of_finished hs ((hfinished c htop).2 hend),
    fun hs hm => hx.ne_failed hs hm⟩
  rw [← hleads.run_eq, List.length_cons, List.length_map]

end Conversation

/-- A flow of one leaf below two managers. Each of the three finishes, and leaves a note. -/
def Blueprint.deferring : Blueprint :=
  ⟨[.leaf "ask" { reply := fun _ _ => .ok (.decision (.finish [(.text "ask", .bool true)])) } none
      none,
    .manager "main" ["ask"] "ask"
      (some { reply := fun _ _ => .ok (.decision (.finish [(.text "main", .bool true)])) }) "",
    .manager "frame" ["main"] "main"
      (some { reply := fun _ _ => .ok (.decision (.finish [(.text "frame", .bool true)])) }) ""]⟩

namespace Conversation

/-- Both managers are asked, from the inner one on, and the session is over. -/
theorem escalation_of_deferring : ∃ c₀ s l s',
    ofBlueprint .deferring "frame" (some .recording) (.record []) "c" = .ok c₀ ∧
    (s, .input ["ask", "main"] .null) ∈ c₀.performed (c₀.entries [.start 9]) ∧
    s.top.part? ["ask", "main"] = some (.leaf l) ∧
    (Task.input ["ask", "main"] .null).Leads s
      [.input ["ask", "main"] .null, .close ["main"], .close []] (.ok none) s' ∧
    s'.events = s.events ++ [.ended] ∧ s'.top.session.state =
      [(.text "ask", .bool true), (.text "main", .bool true), (.text "frame", .bool true)] ∧
    ∀ c : Conversation, c.scene.top = s'.top → c.isFinished = true := by
  have h : ofBlueprint .deferring "frame" (some .recording) (.record []) "c" = .ok _ := rfl
  obtain ⟨x, s', hx, -, hleads, -, -, hstate, hevents, hover, -⟩ :=
    end_of_traversal_escalates h (fun _ => rfl) [.start 9] (List.mem_of_getElem? (i := 3) rfl) rfl
      rfl rfl (.merged rfl rfl rfl)
  obtain rfl := hx.unique <| .deferred rfl rfl (.merged rfl rfl rfl) rfl <|
    .ended rfl rfl (.merged rfl rfl rfl) rfl
  exact ⟨_, _, _, s', h, List.mem_of_getElem? (i := 3) rfl, rfl, hleads, hevents, hstate,
    fun c htop => (hover c htop).2 rfl⟩

end Conversation

end Parley

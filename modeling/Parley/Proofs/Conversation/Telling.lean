import Parley.Proofs.Conversation.Conditions
import Parley.Proofs.Conversation.Lasting
import Parley.Proofs.Flow.Telling

/-!
# Conversations without a front end

A conversation can go on without a front end until there is something to tell. The call that
comes to this fails, and what it leaves depends on what was to be told: after an output the
conversation neither waits nor is over, but it waits after a question, although nobody has been
asked, and is over after the end, although nobody has been told
(`Conversation.missing_front_end_fails_call`).
-/

namespace Parley

open Element

namespace Conversation

variable {c₀ c : Conversation} {x : Entry} {r : Course} {s : Scene} {t : Task} {event : Event}
  {cause : Fault}

/-- After any calls a conversation without a front end is in a phase, and has none. -/
theorem Calls.phase_and_frontEnd {rs : List Request} {frontEnd : Option FrontEnd}
    (hc : c₀.Calls rs c x) (h : c₀.Phase) (hf : c₀.frontEnd = frontEnd) :
    c.Phase ∧ c.frontEnd = frontEnd := by
  obtain ⟨xs, ys, -, rfl⟩ := hc
  refine foldl_enter (P := fun c => c.Phase ∧ c.frontEnd = frontEnd) ?_ ⟨h, hf⟩ xs
  rintro c x ⟨h, hf⟩ ha
  obtain ⟨r, hr⟩ := takes_of_admits h ha
  exact ⟨hr.phase, hr.frontEnd_enter.trans hf⟩

/-- Where an event is to be told, the turn is under way. -/
theorem Takes.inFlight_of_tells (h : c.Takes x r) (hq : (s, t) ∈ x.tasks c)
    (ht : t.Tells s.top event) : InFlight s.top t := by
  rcases h.begins_or_inFlight _ hq with hb | hi
  · cases hb with
    | execute hi => exact hi
    | input => cases ht
  · exact hi

/-- A call that is to tell an event which is not taken fails, and leaves the conversation
    waiting if that was a question, and over if it was the end. -/
theorem Takes.of_tells (h : c.Takes x r) (hq : (s, t) ∈ x.tasks c) (ht : t.Tells s.top event)
    (hr : s.top.session.reception event = .error cause) : (x.turn c).1 = .error cause ∧
      (c.enter x).isAwaiting = event.asks ∧ (c.enter x).isFinished = event.ends := by
  obtain ⟨k, r', hruns, hresult, htop⟩ := h.exists_rest hq
  obtain ⟨hfails, hawaiting, hfinished⟩ := hruns.of_tells (h.inFlight_of_tells hq ht) ht hr
  rw [htop] at hawaiting hfinished
  exact ⟨hresult.symm.trans hfails, (isAwaiting_eq h.wired).trans hawaiting,
    (isFinished_eq h.wired).trans hfinished⟩

/-- In a conversation over a built flow that has no front end, in any call after any requests:

    * if the call comes to a task with an event to be told, it fails for want of a front end.
      Then the conversation waits for an input if, and only if, the event was a question, and it
      is over if, and only if, it was the end. Unless it was a question nothing changes any
      more, and every input is refused;
    * if the call fails for want of a front end, it has come to such a task, or to one at which
      a handler raises this fault. -/
theorem missing_front_end_fails_call {b : Blueprint} {root id : String} {state : Value}
    (h : ofBlueprint b root none state id = .ok c₀) (rs : List Request)
    (hc : c₀.Calls rs c x) :
    (∀ s t event, (s, t) ∈ x.tasks c → t.Tells s.top event →
      (x.turn c).1 = .error (.configuration (.noFrontEnd root)) ∧
      (c.enter x).isAwaiting = event.asks ∧ (c.enter x).isFinished = event.ends ∧
      (c.enter x).accepts = event.asks ∧
      (event.asks = false → (∀ rs', (c.enter x).afterAll rs' = c.enter x) ∧
        ∀ limit v, Turn.deliver limit v (c.enter x) = (.error (.protocol
          (if event.ends then .inputAfterEnd else .inputUnexpected)), c.enter x))) ∧
    ∀ name, (x.turn c).1 = .error (.configuration (.noFrontEnd name)) →
      ∃ q ∈ x.tasks c, q.1.top.Raises (.configuration (.noFrontEnd name)) ∨
        ∃ event, q.2.Tells q.1.top event := by
  obtain ⟨hfresh, hfe, -⟩ := ofBlueprint_ok h
  obtain ⟨hphase, hnone⟩ := hc.phase_and_frontEnd (.fresh hfresh) hfe
  refine ⟨fun s t event hq ht => ?_, fun name he => ?_⟩
  · obtain ⟨r, hr⟩ := takes_of_admits hphase (x.admits_of_mem_tasks hq)
    -- All along the session is that of the root, and has no front end.
    have hrec := Manager.reception_none ((hr.frontEnd_tasks _ hq).trans hnone) event
    rw [session_name_of_performed h (hc.mem_performed hq)] at hrec
    obtain ⟨hfails, hawaiting, hfinished⟩ := hr.of_tells hq ht hrec
    have hstarted := hr.isStarted
    have haccepts : (c.enter x).accepts = event.asks := by
      rw [accepts, hstarted.started, hawaiting, hfinished]
      cases event <;> rfl
    refine ⟨hfails, hawaiting, hfinished, haccepts, fun hasks => ?_⟩
    rw [hasks] at haccepts
    refine ⟨afterAll_of_refused (admits_eq_false hstarted haccepts), fun limit v => ?_⟩
    rw [deliver_of_refused haccepts, refusal, hstarted.started, hfinished]
    cases event.ends <;> rfl
  · -- A call that is refused, or cut short, fails with another fault.
    rcases exists_failed_of_turn hphase.isIntact he with hr | hr | ⟨q, hq, o, hs, ho⟩
    · cases hr
    · cases hr
    · exact ⟨q, hq, hs.tells_of_noFrontEnd ho⟩

/-- To start a flow that asks something comes to the question. -/
theorem exists_question_of_single : ∃ c₀ s,
    ofBlueprint .single "main" none (.record []) "c" = .ok c₀ ∧
    (s, .execute ["ask"]) ∈ (Entry.start 5).tasks c₀ ∧
    (Task.execute ["ask"]).Tells s.top (.expectation (.text "Well?")) := by
  refine ⟨_, _, rfl, List.mem_of_getElem? (i := 1) rfl, ?_⟩
  exact .expectation rfl .silent rfl rfl

/-- Without a front end this fails, and the next input is taken all the same. -/
theorem missing_front_end_of_single : ∃ c₀,
    ofBlueprint .single "main" none (.record []) "c" = .ok c₀ ∧
    c₀.Calls [.start 5] c₀ (.start 5) ∧
    ((Entry.start 5).turn c₀).1 = .error (.configuration (.noFrontEnd "main")) ∧
    (c₀.enter (.start 5)).accepts = true := by
  obtain ⟨c₀, s, h, hq, ht⟩ := exists_question_of_single
  have hc : c₀.Calls [.start 5] c₀ (.start 5) := ⟨[], [], rfl, rfl⟩
  obtain ⟨hcalls, -⟩ := missing_front_end_fails_call h [.start 5] hc
  obtain ⟨hfails, -, -, haccepts, -⟩ := hcalls s _ _ hq ht
  exact ⟨c₀, h, hc, hfails, haccepts⟩

end Conversation

/-- A flow of one leaf that neither shows nor asks anything. -/
def Blueprint.silent : Blueprint :=
  ⟨[.leaf "pass" { reply := fun _ _ => .ok .nothing } none none,
    .manager "main" ["pass"] "pass" none ""]⟩

/-- After the failure for want of a front end one conversation waits, and another is over. -/
theorem Conversation.unstalled_without_front_end :
    (∃ c, ofBlueprint .single "main" none (.record []) "c" = .ok c ∧
      ((Entry.start 5).turn c).1 = .error (.configuration (.noFrontEnd "main")) ∧
      (c.enter (.start 5)).isAwaiting = true) ∧
    ∃ c, ofBlueprint .silent "main" none (.record []) "c" = .ok c ∧
      ((Entry.start 5).turn c).1 = .error (.configuration (.noFrontEnd "main")) ∧
      (c.enter (.start 5)).isFinished = true :=
  ⟨⟨_, rfl, rfl, rfl⟩, ⟨_, rfl, rfl, rfl⟩⟩

end Parley

import Parley.Proofs.Flow.Determined
import Parley.Proofs.Flow.Failure

/-!
# Telling the front end

At three kinds of tasks the outermost manager tells its front end of an event (`Task.Tells`): a
leaf has something to show, a leaf has something to ask, or the traversal of the whole flow is
over. The session is marked as waiting before the front end is told of a question, and as
finished before it is told of the end. So where there is no front end, or one that refuses the
event, the step fails with the mark in place (`Tells.exists_step`).

A step that fails for want of a front end is one at which an event is to be told, unless a
handler raises such a fault itself (`Step.tells_of_noFrontEnd`).
-/

namespace Parley

open Element

namespace Event

/-- The event asks for an input. -/
def asks : Event → Bool
  | .expectation _ => true
  | _ => false

/-- The event ends the session. -/
def ends : Event → Bool
  | .ended => true
  | _ => false

end Event

/-- With the task comes an event that the front end is to be told of. -/
inductive Task.Tells (e : Element) : Task → Event → Prop
  | output {a : Address} {l : Leaf} {x : Emitter} {p : Payload} :
      e.part? a = some (.leaf l) → l.output = some x →
      x.transform e.session.state x.payload = .ok (some p) →
      Tells e (.execute a) (.output p)
  | expectation {a : Address} {l : Leaf} {shown : List Event} {x : Emitter} {p : Payload} :
      e.part? a = some (.leaf l) → Shows e.session l.output (.ok ()) shown →
      l.expectation = some x → x.transform e.session.state x.payload = .ok (some p) →
      Tells e (.execute a) (.expectation p)
  | ended {m : Manager} {keys : List String} {d : Decision} {state : Mapping} :
      e.part? [] = some (.manager m keys) → m.decision e.session.state = .ok d →
      Merges e.session.state d.patch (.ok ()) state → d.finishes = true →
      Tells e (.close []) .ended

variable {e : Element} {t : Task} {o : Outcome} {event : Event} {cause : Fault} {name : String}
  {n : Nat} {c : Course}

/-- For want of a front end no event is taken. -/
theorem Manager.reception_none {m : Manager} (h : m.frontEnd = none) (event : Event) :
    m.reception event = .error (.configuration (.noFrontEnd m.name)) := by
  rw [reception, h]

namespace Task

/-- An event that is not taken fails the step, which leaves the session waiting if the event is
    a question, and over if it is the end. -/
theorem Tells.exists_step (ht : t.Tells e event) (h : InFlight e t)
    (hr : e.session.reception event = .error cause) : ∃ o, t.Step e o ∧ o.result = .error cause ∧
      o.top.session.awaiting = event.asks ∧ o.top.session.finished = event.ends := by
  obtain ⟨hf, ⟨hawaiting, hfinished⟩, -, -⟩ := h
  have hw := hf.wired
  cases ht with
  | output hl hx hp =>
    have hshow := Shows.refused hp hr
    rw [← hx] at hshow
    refine ⟨_, .unshown hl hshow, rfl, ?_, ?_⟩
    · rw [session_setStatus, hawaiting]
      rfl
    · rw [session_setStatus, hfinished]
      rfl
  | @expectation a l _ _ _ hl hshow hx hp =>
    have hsame : SameSkeleton e (e.setStatus a .awaitingInput) := (sameSkeleton_setStatus _).symm
    have hse := (hw.of_sameSkeleton hsame).session_setAwaiting true
    refine ⟨_, .asked hl hshow hx (.refused hp hr), rfl, ?_, ?_⟩
    · rw [hse]
      rfl
    · rw [hse, session_setStatus, hfinished]
      rfl
  | @ended m keys d state hm hd hg hfin =>
    have hsame : SameSkeleton e (e.setState state) := (sameSkeleton_setState state).symm
    have hse := (hw.of_sameSkeleton hsame).session_setFinished
    rw [hw.session_setState] at hse
    refine ⟨_, .endRefused hm hd hg hfin hr, rfl, ?_, ?_⟩
    · rw [hse, hawaiting]
      rfl
    · rw [hse]
      rfl

/-- So does a run that comes to it: the failure is its last step. -/
theorem Runs.of_tells (hr : t.Runs (n + 1) e c) (h : InFlight e t) (ht : t.Tells e event)
    (hrec : e.session.reception event = .error cause) : c.result = .error cause ∧
      c.top.session.awaiting = event.asks ∧ c.top.session.finished = event.ends := by
  obtain ⟨o, hs, ho, hflags⟩ := ht.exists_step h hrec
  obtain rfl := (Runs.failed hs ho).unique_of_length hr
  exact ⟨rfl, hflags⟩

/-- A step fails for want of a front end where an event is to be told, unless it is a handler
    that raises the fault. -/
theorem Step.tells_of_noFrontEnd (hs : t.Step e o)
    (ho : o.result = .error (.configuration (.noFrontEnd name))) :
    e.Raises (.configuration (.noFrontEnd name)) ∨ ∃ event, t.Tells e event := by
  have not_unsupported (reply : Value) :
      Fault.configuration (.noFrontEnd name) ≠ Decision.unsupported reply := by
    rcases Decision.unsupported_cases reply with ⟨-, hr⟩ | ⟨-, hr⟩ <;> rw [hr] <;> exact nofun
  generalize hcause : Fault.configuration (.noFrontEnd name) = cause at ho ⊢
  cases hs with
  | unshown hl hshow =>
    cases ho
    obtain ⟨x, hx, ht | ⟨p, ht, -⟩⟩ := hshow.of_error
    · exact .inl (.output hl hx ht)
    · exact .inr ⟨_, .output hl hx ht⟩
  | @asked a l shown question r asked awaiting hl hshow hq hask =>
    cases r with
    | ok => cases ho
    | error =>
      cases ho
      rcases hask.of_error with ht | ⟨p, ht, -⟩
      · exact .inl (.expectation hl hq ht)
      · exact .inr ⟨_, .expectation hl hshow hq ht⟩
  | endRefused hm hd hg hfin => exact .inr ⟨_, .ended hm hd hg hfin⟩
  -- The other faults are not for want of a front end, if no handler raises them.
  | undecided hl hd =>
    cases ho
    rcases Decider.decision_error hd with hr | ⟨reply, hr⟩
    · exact .inl (.leafDecider hl hr)
    · exact absurd (hcause.trans hr) (not_unsupported reply)
  | closeUndecided hm hd =>
    cases ho
    rcases raises_of_decision hm hd with hr | ⟨reply, hr⟩
    · exact .inl hr
    · exact absurd (hcause.trans hr) (not_unsupported reply)
  | unmerged _ _ hg | closeUnmerged _ _ hg =>
    cases ho
    obtain ⟨misuse, rfl⟩ := hg.of_error
    cases hcause
  | @strayed _ m _ target =>
    cases ho
    rcases m.stray_cases target with hs | ⟨_, hs⟩ <;> cases hcause.trans hs
  | unnamed | closeUnnamed | overrun | refusedEnded | refusedUnasked | routedOutside =>
    cases ho
    cases hcause
  | _ => cases ho

end Task

end Parley

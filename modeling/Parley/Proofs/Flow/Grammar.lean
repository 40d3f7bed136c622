import Parley.Proofs.Flow.Run

/-!
# The events of a turn

What a turn tells the outside is a *block* (`IsBlock`): outputs, and after them
a question, the end of the session, or neither.

* `Task.Runs.isBlock`: the events that a run adds are a block, also if it fails;
* `Task.Runs.ended_mem_iff`: the end is among them if the session is over then.
-/

namespace Parley

open Element

/-- Outputs, and then a question or the end of the session or neither. -/
inductive IsBlock : List Event → Prop
  | nil : IsBlock []
  | output (p : Payload) {b : List Event} : IsBlock b → IsBlock (.output p :: b)
  | expectation (p : Payload) : IsBlock [.expectation p]
  | ended : IsBlock [.ended]

variable {m : Manager} {b shown asked : List Event} {e : Element} {t t' : Task} {o : Outcome}
  {n : Nat} {c : Course}

namespace IsBlock

/-- The end of the session is the last event of its block. -/
theorem ended_not_mem_dropLast (h : IsBlock b) : .ended ∉ b.dropLast := by
  induction h with
  | nil => simp
  | @output p b _ ih =>
    cases b with
    | nil => simp
    | cons x b => simpa using ih
  | expectation => simp
  | ended => simp

end IsBlock

/-! ### The events of a step -/

theorem Shows.isBlock_append {x : Option Emitter} {r : Except Fault Unit}
    (h : Shows m x r shown) (hb : IsBlock b) : IsBlock (shown ++ b) := by
  cases h with
  | shown => exact .output _ hb
  | _ => exact hb

theorem Shows.ended_not_mem {x : Option Emitter} {r : Except Fault Unit}
    (h : Shows m x r shown) : .ended ∉ shown := by
  cases h <;> simp

theorem Asks.isBlock {x : Emitter} {r : Except Fault Unit} {awaiting : Bool}
    (h : Asks m x r asked awaiting) : IsBlock asked := by
  cases h with
  | asked => exact .expectation _
  | _ => exact .nil

theorem Asks.ended_not_mem {x : Emitter} {r : Except Fault Unit} {awaiting : Bool}
    (h : Asks m x r asked awaiting) : .ended ∉ asked := by
  cases h <;> simp

namespace Task

namespace Step

theorem isBlock (hs : t.Step e o) : IsBlock o.events := by
  cases hs with
  | unshown _ h | passed _ h => simpa using h.isBlock_append .nil
  | asked _ h _ ha => exact h.isBlock_append ha.isBlock
  | ended => exact .ended
  | _ => exact .nil

/-- A step after which the turn goes on tells outputs only. -/
theorem isBlock_append (hs : t.Step e o) (ho : o.result = .ok (some t')) (hb : IsBlock b) :
    IsBlock (o.events ++ b) := by
  cases hs with
  | passed _ h => exact h.isBlock_append hb
  | asked _ _ _ ha => cases ha <;> cases ho
  | unshown | ended => cases ho
  | _ => exact hb

/-- The end is told if the session ends with the step. -/
theorem ended_mem_iff (hf : e.session.IsReceptive) (hs : t.Step e o)
    (h : e.session.finished = false) : .ended ∈ o.events ↔ o.top.session.finished = true := by
  cases hs with
  | unshown _ hs | passed _ hs => simp [h, hs.ended_not_mem]
  | asked _ hs _ ha => simp [h, hs.ended_not_mem, ha.ended_not_mem]
  | ended hm => exact iff_of_true List.mem_cons_self (finished_setFinished hm)
  | endRefused _ _ _ _ hr =>
    rw [hf.reception] at hr
    cases hr
  | _ => simp [h]

end Step

namespace Runs

/-- What a run tells is a block. -/
theorem isBlock (hr : t.Runs n e c) : IsBlock c.events := by
  induction hr with
  | endless => exact .nil
  | failed hs | settled hs => exact hs.isBlock
  | next hs ho _ ih => exact hs.isBlock_append ho ih

theorem ended_mem_iff_of_inFlight (hr : t.Runs n e c) (h : InFlight e t)
    (hf : e.session.IsReceptive) : .ended ∈ c.events ↔ c.top.session.finished = true := by
  induction hr with
  | endless => simp [h.unsettled.2]
  | failed hs | settled hs => exact hs.ended_mem_iff hf h.unsettled.2
  | next hs ho _ ih =>
    -- The session is not over as long as the turn goes on.
    have h' := hs.inFlight h ho
    have hstep := hs.ended_mem_iff hf h.unsettled.2
    rw [List.mem_append, hstep, h'.unsettled.2, ih h' (hs.isReceptive hf)]
    simp

/-- A turn tells the end if the session is over then. -/
theorem ended_mem_iff (hr : t.Runs (n + 1) e c) (h : t.Begins e) (hf : e.session.IsReceptive) :
    .ended ∈ c.events ↔ c.top.session.finished = true := by
  cases h with
  | execute h => exact hr.ended_mem_iff_of_inFlight h hf
  | input v h =>
    obtain ⟨key, c', hr', hfl, rfl⟩ := hr.of_waitsAt h
    exact hr'.ended_mem_iff_of_inFlight hfl (hf.setAwaiting false)

end Runs

end Task

end Parley

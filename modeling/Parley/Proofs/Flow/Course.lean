import Parley.Proofs.Flow.Busy
import Parley.Proofs.Flow.Step

/-!
# The course of a turn

What holds while a turn is under way, step after step.

* `Task.Step.fits`: a task that fits the flow is followed by one that fits what
  the flow has become, so the wiring outlasts every step (`Task.Step.wired`).
* `Task.Step.inFlight`: the session is neither waiting nor over, and no leaf is
  busy but the one that is to decide (`InFlight`), as long as the turn goes on.
* `Task.Step.settled`: with the last step of a turn a leaf waits for an input
  (`Element.WaitsAt`), or the session is over (`Element.IsOver`).
* `Task.Step.failed`: a step that fails leaves the session as it is in the course
  of the turn, if the front end takes all that it is told. If it does not, the session
  can be left waiting or over, too (`Task.Step.failed_cases`).
-/

namespace Parley

open Element

variable {e : Element} {a p : Address} {key : String} {m : Manager} {keys : List String} {l : Leaf}
  {t t' : Task} {o : Outcome}

namespace Element

/-- What is at the cursor of a manager in use is in use. -/
theorem InUse.child (h : e.InUse a) (hm : e.part? a = some (.manager m keys))
    (hc : m.cursor = some key) : e.InUse (key :: a) := by
  obtain ⟨k, -, hk, hact, hs⟩ := h.wired.exists_active_child h.active hm
  rw [hc] at hk
  cases hk
  exact ⟨h.wired, hact, hs⟩

theorem RewoundBelow.of_sameSkeleton {e' : Element} (h : e.RewoundBelow a)
    (hs : SameSkeleton e e') : e'.RewoundBelow a := by
  intro c m keys hc hp
  obtain ⟨m', hp', -, hr, -, -, hcur⟩ := hs.symm.manager hp
  exact hcur ▸ hr ▸ h hc hp'

end Element

namespace Task

theorem fits_task {d : Decision} (h : e.InUse p) (hr : e.RewoundBelow p)
    (hm : e.part? p = some (.manager m keys)) : (d.task p).Fits e := by
  unfold Decision.task
  split
  · exact ⟨h, hr, m, keys, hm⟩
  · exact ⟨h, hr, m, keys, hm⟩

/-- Status and session do not matter to what a task needs. -/
theorem Fits.of_sameSkeleton {e' : Element} (h : t.Fits e) (hs : SameSkeleton e e') :
    t.Fits e' := by
  have hmanager {a : Address} (h : e.InUse a ∧ e.RewoundBelow a ∧
      ∃ m keys, e.part? a = some (.manager m keys)) :
      e'.InUse a ∧ e'.RewoundBelow a ∧ ∃ m keys, e'.part? a = some (.manager m keys) := by
    obtain ⟨h, hr, m, keys, hm⟩ := h
    obtain ⟨m', hm', -⟩ := hs.manager hm
    exact ⟨h.of_sameSkeleton hs, hr.of_sameSkeleton hs, m', keys, hm'⟩
  cases t with
  | execute a => exact InUse.of_sameSkeleton h hs
  | input a v => exact InUse.of_sameSkeleton h hs
  | move a target => exact hmanager h
  | close a => exact hmanager h

/-- What a task is about is in use. -/
theorem Fits.inUse (h : t.Fits e) : e.InUse t.element := by
  cases t with
  | execute a => exact h
  | input a v => exact h
  | move a target => exact h.1
  | close a => exact h.1

theorem Fits.wired (h : t.Fits e) : e.Wired :=
  h.inUse.wired

namespace Step

/-- A leaf's decision goes to its holder, below which all cursors are at their
    roots. -/
theorem fits_decided {d : Decision} (h : e.InUse (key :: p))
    (hl : e.part? (key :: p) = some (.leaf l)) : (d.task p).Fits e := by
  obtain ⟨m, keys, hm, -⟩ := h.exists_holder
  exact fits_task h.tail (h.wired.rewoundBelow_of_leaf h.active hl) hm

/-- So does that of a manager that has gone back to its root. -/
theorem fits_closed {d : Decision} (h : e.InUse (key :: p))
    (hm : e.part? (key :: p) = some (.manager m keys)) (hr : e.RewoundBelow (key :: p)) :
    (d.task p).Fits (e.setCursor (key :: p) m.root) := by
  obtain ⟨m', keys', hm', -⟩ := h.exists_holder
  have hne : p ≠ key :: p := (List.cons_ne_self key p).symm
  have hm'' : (e.setCursor (key :: p) m.root).part? p = some (.manager m' keys') := by
    rw [part?_setCursor, if_neg hne, hm']
  have hact : (e.setCursor (key :: p) m.root).IsActive p :=
    Wired.isActive_setCursor h.active.1 (List.suffix_cons key p)
  exact fits_task ⟨h.wired.rewind h.active hm hr, hact, by rw [hm'']; rfl⟩
    (h.wired.rewoundBelow_rewind h.active hm hr) hm''

/-- The next task fits what the flow has become. -/
theorem fits (h : t.Fits e) (hs : t.Step e o) (ho : o.result = .ok (some t')) : t'.Fits o.top := by
  cases hs with
  | passed hl _ _ =>
    cases ho
    exact h.of_sameSkeleton (sameSkeleton_setStatus _).symm
  | asked hl _ _ ha => cases ha <;> cases ho
  | entered hm hc _ =>
    cases ho
    exact h.child hm hc
  | decided hl _ _ =>
    cases ho
    exact (fits_decided h hl).of_sameSkeleton
      ((sameSkeleton_setStatus _).trans (sameSkeleton_setState _)).symm
  | accepted hm _ _ hc =>
    cases ho
    exact (h.child hm hc).of_sameSkeleton (sameSkeleton_setAwaiting _).symm
  | handed hm hc =>
    cases ho
    exact h.child hm hc
  | moved hm hk =>
    cases ho
    obtain ⟨h, hr, -⟩ := h
    refine ⟨h.wired.moveTo h.active hm hk hr, isActive_moveTo h.active, ?_⟩
    rw [part?_moveTo_self hm]
    rfl
  | @closed p key m keys d state hm =>
    cases ho
    obtain ⟨h, hr, -⟩ := h
    have hsame : SameSkeleton e (e.setState state) := (sameSkeleton_setState state).symm
    have hm' : (e.setState state).part? (key :: p) = some (.manager m keys) :=
      (part?_mapManager_of_ne (List.cons_ne_nil key p)).trans hm
    exact fits_closed (h.of_sameSkeleton hsame) hm' (hr.of_sameSkeleton hsame)
  -- No other step has a next task.
  | _ => cases ho

/-- The wiring outlasts every step, also one that fails. -/
theorem wired (h : t.Fits e) (hs : t.Step e o) : o.top.Wired := by
  have hw := h.wired
  cases hs with
  | unshown | passed => exact hw.of_sameSkeleton (sameSkeleton_setStatus _).symm
  | asked =>
    exact hw.of_sameSkeleton ((sameSkeleton_setAwaiting _).trans (sameSkeleton_setStatus _)).symm
  | unmerged | closeUnmerged | closeUnnamed | routedOutside =>
    exact hw.of_sameSkeleton (sameSkeleton_setState _).symm
  | unnamed =>
    exact hw.of_sameSkeleton ((sameSkeleton_setStatus _).trans (sameSkeleton_setState _)).symm
  | accepted => exact hw.of_sameSkeleton (sameSkeleton_setAwaiting _).symm
  | ended | endRefused =>
    exact hw.of_sameSkeleton (sameSkeleton_setFinished.trans (sameSkeleton_setState _)).symm
  | decided hl hd hg hn => exact (fits h (.decided hl hd hg hn) rfl).wired
  | moved hm hk => exact (fits h (.moved hm hk) rfl).wired
  | closed hm hd hg hn => exact (fits h (.closed hm hd hg hn) rfl).wired
  | _ => exact hw

end Step

end Task

/-- A step leaves the design of the flow as it is. -/
theorem Task.Step.sameDesign (hs : t.Step e o) : SameDesign o.top e := by
  cases hs with
  | unshown | passed => exact (sameSkeleton_setStatus _).sameDesign
  | asked => exact ((sameSkeleton_setAwaiting _).trans (sameSkeleton_setStatus _)).sameDesign
  | unmerged | closeUnmerged | closeUnnamed | routedOutside =>
    exact (sameSkeleton_setState _).sameDesign
  | unnamed | decided =>
    exact ((sameSkeleton_setStatus _).trans (sameSkeleton_setState _)).sameDesign
  | accepted => exact (sameSkeleton_setAwaiting _).sameDesign
  | moved => exact sameDesign_moveTo
  | closed => exact sameDesign_setCursor.trans (sameSkeleton_setState _).sameDesign
  | ended | endRefused =>
    exact (sameSkeleton_setFinished.trans (sameSkeleton_setState _)).sameDesign
  | _ => exact .refl e

/-! ### Under way, waiting, over -/

/-- The front end takes all that it is told. -/
def Manager.IsReceptive (m : Manager) : Prop :=
  ∃ frontEnd, m.frontEnd = some frontEnd ∧ ∀ e, frontEnd.refusal e = none

theorem Manager.IsReceptive.reception (h : m.IsReceptive) (e : Event) : m.reception e = .ok () := by
  obtain ⟨frontEnd, hf, hr⟩ := h
  simp [Manager.reception, hf, hr]

theorem Element.SameDesign.session_name {e' : Element} (h : SameDesign e' e) :
    e'.session.name = e.session.name := by
  have htop := h []
  cases e <;> cases e' <;> simp_all [part?_nil, part, Part.design, session, Manager.idle]

/-- Flows of one design with one front end have their events taken alike. -/
theorem Element.SameDesign.reception {e' : Element} (h : SameDesign e' e)
    (hf : e'.session.frontEnd = e.session.frontEnd) (event : Event) :
    e'.session.reception event = e.session.reception event := by
  rw [Manager.reception, Manager.reception, hf, h.session_name]

theorem Manager.IsReceptive.setAwaiting (h : e.session.IsReceptive) (awaiting : Bool) :
    (e.setAwaiting awaiting).session.IsReceptive := by
  rw [Manager.IsReceptive, frontEnd_setAwaiting]
  exact h

namespace Element

/-- The session neither waits for an input nor is over, as in the course of a
    turn. -/
def IsUnsettled (e : Element) : Prop :=
  e.session.awaiting = false ∧ e.session.finished = false

namespace IsUnsettled

theorem setStatus (h : e.IsUnsettled) (status : Status) : (e.setStatus a status).IsUnsettled := by
  rw [IsUnsettled, session_setStatus]
  exact h

theorem setState (h : e.IsUnsettled) (state : Mapping) : (e.setState state).IsUnsettled := by
  cases e <;> exact h

theorem setCursor (h : e.IsUnsettled) : (e.setCursor a key).IsUnsettled := by
  obtain ⟨cursor, hc⟩ := session_setCursor e a key
  rw [IsUnsettled, hc]
  exact h

theorem moveTo (h : e.IsUnsettled) : (e.moveTo a key).IsUnsettled := by
  obtain ⟨cursor, hc⟩ := session_moveTo e a key
  rw [IsUnsettled, hc]
  exact h

end IsUnsettled

/-- The session waits for an input to the leaf at the address, which has asked
    for it and is the only busy one. -/
structure WaitsAt (e : Element) (a : Address) : Prop where
  wired : e.Wired
  awaiting : e.session.awaiting = true
  finished : e.session.finished = false
  active : e.IsActive a
  asker : ∃ l, e.part? a = some (.leaf l) ∧ l.expectation.isSome ∧ l.status = .awaitingInput
  calm : e.IsCalmOffPath

/-- The session waits for one leaf. -/
theorem WaitsAt.eq {b : Address} (h : e.WaitsAt a) (h' : e.WaitsAt b) : a = b := by
  obtain ⟨l, hl, -⟩ := h.asker
  obtain ⟨l', hl', -⟩ := h'.asker
  exact h.active.eq_of_leaf hl h'.active hl'

/-- The session is over. -/
structure IsOver (e : Element) : Prop where
  wired : e.Wired
  awaiting : e.session.awaiting = false
  finished : e.session.finished = true
  calm : e.IsCalm

end Element

/-- Which leaves may be busy when a task is performed: the active one, if it is
    to decide. -/
def Task.IsCalmIn (e : Element) : Task → Prop
  | .input .. => e.IsCalmOffPath
  | _ => e.IsCalm

/-- A turn is under way, and the task is the next one. -/
structure InFlight (e : Element) (t : Task) : Prop where
  fits : t.Fits e
  unsettled : e.IsUnsettled
  below : ∀ v, t ≠ .input [] v
  calm : t.IsCalmIn e

namespace Task.Step

/-- A decision is followed by a task that no leaf may be busy in. -/
theorem isCalmIn_task {d : Decision} (h : e.IsCalm) : (d.task p).IsCalmIn e := by
  unfold Decision.task
  split <;> exact h

theorem task_ne_input {d : Decision} (v : Value) : d.task p ≠ .input [] v := by
  unfold Decision.task
  split <;> exact Task.noConfusion

/-- The turn goes on. -/
theorem inFlight (h : InFlight e t) (hs : t.Step e o) (ho : o.result = .ok (some t')) :
    InFlight o.top t' := by
  have hfits := hs.fits h.fits ho
  obtain ⟨hf, hu, hb, hc⟩ := h
  cases hs with
  | passed hl _ _ =>
    cases ho
    obtain ⟨key, p, rfl⟩ := hf.wired.exists_cons hl
    exact ⟨hfits, hu.setStatus _, nofun, (hc.offPath.setStatus hf.active _)⟩
  | asked _ _ _ ha => cases ha <;> cases ho
  | entered =>
    cases ho
    exact ⟨hfits, hu, nofun, hc⟩
  | @decided p key l _ _ state hl =>
    cases ho
    have hl' : (e.setState state).part? (key :: p) = some (.leaf l) :=
      (part?_mapManager_of_ne (List.cons_ne_nil key p)).trans hl
    have hact : (e.setState state).IsActive (key :: p) :=
      (sameSkeleton_setState state).symm.isActive hf.active
    have hcalm := IsCalmOffPath.setStatus_resolved (hc.setState state) hact hl'
    exact ⟨hfits, (hu.setState _).setStatus _, task_ne_input, isCalmIn_task hcalm⟩
  -- In the course of a turn no input is handed to the outermost manager.
  | accepted => exact absurd rfl (hb _)
  | handed =>
    cases ho
    exact ⟨hfits, hu, nofun, hc⟩
  | moved hm _ =>
    cases ho
    exact ⟨hfits, hu.moveTo, nofun, IsCalm.moveTo hc hf.1.active hm⟩
  | closed =>
    cases ho
    exact ⟨hfits, (hu.setState _).setCursor, task_ne_input,
      isCalmIn_task (IsCalm.setState hc _).setCursor⟩
  | _ => cases ho

/-- The front end of a session stays the same. -/
theorem frontEnd_eq (hs : t.Step e o) : o.top.session.frontEnd = e.session.frontEnd := by
  cases hs <;> simp

theorem isReceptive (hs : t.Step e o) (h : e.session.IsReceptive) : o.top.session.IsReceptive := by
  obtain ⟨frontEnd, hf, hr⟩ := h
  exact ⟨frontEnd, hs.frontEnd_eq.trans hf, hr⟩

/-- A leaf that has asked something waits for the answer. -/
theorem waitsAt_asked (h : e.InUse a) (hu : e.IsUnsettled) (hc : e.IsCalm)
    (hl : e.part? a = some (.leaf l)) (hq : l.expectation.isSome) :
    ((e.setStatus a .awaitingInput).setAwaiting true).WaitsAt a := by
  have hstatus : SameSkeleton e (e.setStatus a .awaitingInput) := (sameSkeleton_setStatus _).symm
  have hsame := hstatus.trans (sameSkeleton_setAwaiting true).symm
  have hse := (h.wired.of_sameSkeleton hstatus).session_setAwaiting true
  rw [session_setStatus] at hse
  refine ⟨h.wired.of_sameSkeleton hsame, ?_, ?_, hsame.isActive h.active, ?_, ?_⟩
  · rw [hse]
  · rw [hse]
    exact hu.2
  · refine ⟨{ l with status := .awaitingInput }, (leaf_mapManager (a := [])).2 ?_, hq, rfl⟩
    rw [part?_setStatus, if_pos rfl, hl]
    rfl
  · exact (hc.offPath.setStatus h.active _).setAwaiting true

/-- Once it is marked as finished, the session is over. -/
theorem isOver_setFinished {state : Mapping} (h : e.Wired)
    (hwired : (e.setState state).setFinished.Wired) (hu : e.IsUnsettled) (hc : e.IsCalm) :
    (e.setState state).setFinished.IsOver := by
  have hw : (e.setState state).Wired := h.of_sameSkeleton (sameSkeleton_setState state).symm
  have hse := hw.session_setFinished
  rw [h.session_setState] at hse
  refine ⟨hwired, ?_, ?_, (IsCalm.setState hc _).setFinished⟩
  · rw [hse]
    exact hu.1
  · rw [hse]

/-- The turn is over: a leaf has asked something, or the session has ended. -/
theorem settled (h : InFlight e t) (hs : t.Step e o) (ho : o.result = .ok none) :
    (∃ a, t = .execute a ∧ o.top.WaitsAt a ∧ SameSkeleton e o.top) ∨ o.top.IsOver := by
  have hwired := hs.wired h.fits
  obtain ⟨hf, hu, -, hc⟩ := h
  cases hs with
  | asked hl _ hq ha =>
    have hq' := Option.isSome_iff_exists.2 ⟨_, hq⟩
    cases ha with
    | unasked | asked =>
      exact .inl ⟨_, rfl, waitsAt_asked hf hu hc hl hq',
        ((sameSkeleton_setAwaiting true).trans (sameSkeleton_setStatus _)).symm⟩
    | failed | refused => cases ho
  | ended => exact .inr (isOver_setFinished hf.1.wired hwired hu hc)
  | _ => cases ho

/-- A turn that fails leaves the session unsettled, unless it does so because an event is not
    taken: a question that is not taken is waited for all the same, and a session whose end is
    not taken is over. -/
theorem failed_cases (h : InFlight e t) (hs : t.Step e o) {cause : Fault}
    (ho : o.result = .error cause) : o.top.IsUnsettled ∨
      ∃ event, e.session.reception event = .error cause ∧
        ((∃ a, o.top.WaitsAt a) ∨ o.top.IsOver) := by
  have hwired := hs.wired h.fits
  obtain ⟨hf, hu, hb, hc⟩ := h
  cases hs with
  | unshown => exact .inl (hu.setStatus _)
  | @asked a l _ _ _ _ _ hl _ hq ha =>
    cases ha with
    | failed =>
      -- The transform of the question has failed, before the flag is set.
      have hself : (e.setStatus a .awaitingInput).setAwaiting e.session.awaiting =
          e.setStatus a .awaitingInput := by
        rw [← session_setStatus (e := e) (a := a) .awaitingInput]
        exact setAwaiting_self
      left
      show IsUnsettled _
      rw [hself]
      exact hu.setStatus _
    | refused _ hrefused =>
      cases ho
      have hq' := Option.isSome_iff_exists.2 ⟨_, hq⟩
      exact .inr ⟨_, hrefused, .inl ⟨a, waitsAt_asked hf hu hc hl hq'⟩⟩
    | unasked | asked => cases ho
  | unmerged | closeUnmerged | closeUnnamed | routedOutside => exact .inl (hu.setState _)
  | unnamed => exact .inl ((hu.setState _).setStatus _)
  | endRefused _ _ _ _ hrefused =>
    cases ho
    exact .inr ⟨_, hrefused, .inr (isOver_setFinished hf.1.wired hwired hu hc)⟩
  | passed | entered | decided | accepted | handed | moved | closed | ended => cases ho
  | _ => exact .inl hu

/-- A turn that fails leaves the session unsettled, if the front end takes all
    that it is told. -/
theorem failed (h : InFlight e t) (hr : e.session.IsReceptive) (hs : t.Step e o) {cause : Fault}
    (ho : o.result = .error cause) : o.top.IsUnsettled := by
  rcases hs.failed_cases h ho with hu | ⟨event, hevent, -⟩
  · exact hu
  · rw [hr.reception] at hevent
    cases hevent

/-- An input that the session waits for is taken in. -/
theorem accepted_of_waitsAt (h : e.WaitsAt a) {v : Value} (hs : (Task.input [] v).Step e o) :
    ∃ key, o = ⟨.ok (some (.input [key] v)), e.setAwaiting false, [], []⟩ ∧
      InFlight (e.setAwaiting false) (.input [key] v) := by
  have hfits : (Task.input [] v).Fits e := InUse.top h.wired
  cases hs with
  | refusedEnded hm hf =>
    rw [← session_eq hm, h.finished] at hf
    cases hf
  | refusedUnasked hm _ ha =>
    rw [← session_eq hm, h.awaiting] at ha
    cases ha
  | @accepted m keys key _ hm hf ha hc =>
    have hse := h.wired.session_setAwaiting false
    refine ⟨key, rfl, fits hfits (.accepted hm hf ha hc) rfl, ⟨?_, ?_⟩, nofun, ?_⟩
    · rw [hse]
    · rw [hse]
      exact h.finished
    · exact h.calm.setAwaiting false

end Task.Step

end Parley

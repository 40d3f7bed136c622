import Parley.Proofs.Conversation.History
import Parley.Proofs.Flow.Building
import Parley.Proofs.Flow.Run

/-!
# The phases of a conversation

A call that is not refused out of hand runs the flow (`Conversation.Performs`),
whatever the front end does with the events (`performs_of_admits`).

A conversation is fresh, waits for an input, is over or has failed
(`Conversation.Phase`), and every call leads from one phase to another
(`Phase.enter`): the run that it does then is a turn (`Conversation.Takes`,
`takes_of_admits`). If the front end takes all that it is told, a call that fails
leaves it neither waiting nor over (`Takes.of_error`).
-/

namespace Parley

open Element

namespace Entry

/-- The task that an entry begins with. -/
def first : Entry → Task
  | .start _ => .execute []
  | .deliver _ v => .input [] v

/-- The input that an entry brings, if any. -/
def inputs : Entry → List Value
  | .start _ => []
  | .deliver _ v => [v]

theorem exists_limit (x : Entry) : ∃ n, x.limit = n + 1 := by
  cases x <;> exact ⟨_, rfl⟩

end Entry

namespace Conversation

variable {c : Conversation} {x : Entry} {m : Manager} {keys : List String}

/-- The flow as a conversation starts it: with the front end and the state at the
    outermost manager, and attached. -/
def opened (c : Conversation) : Element :=
  ((c.scene.top.mapManager fun m => { m with frontEnd := c.frontEnd, state := c.initial }).attach
    .free).1

/-- The flow that the first task of an entry finds. -/
def flowFor (c : Conversation) : Entry → Element
  | .start _ => c.opened
  | .deliver .. => c.scene.top

/-- The events that an entry brings before its first task. -/
def heard (c : Conversation) (x : Entry) : List Event :=
  if c.frontEnd.any FrontEnd.keepsInputs then x.inputs.map .input else []

/-! ### The gate -/

/-- A new conversation attaches the flow, whose outermost manager is the first
    to be executed. -/
theorem gate_start (limit : Nat) (h : c.started = false) (hnew : c.scene.top.IsNew)
    (hm : c.scene.top.part? [] = some (.manager m keys)) : ∃ log,
    (Entry.start limit).gate c = (.ok (.execute []),
      { c with started := true, scene := { c.scene with top := c.opened, log := log } }) := by
  obtain ⟨cs, hx, -⟩ := at?_manager hm
  have htop : c.scene.top = .manager m cs := Option.some.inj hx
  have hlink : c.scene.top.link = .free := by
    rw [htop]
    exact (hnew hm).1
  -- The session gets its front end and its state first, and then the flow is
  -- attached, which does not fail where all cursors are at their roots.
  let s : Scene := { c.scene with top := c.scene.top.mapManager fun m =>
    { m with frontEnd := c.frontEnd, state := c.initial } }
  have haimed : s.top.IsAimed := (hnew.furnish c.frontEnd c.initial).isAimed
  have hy : (Act.attachAt [] .free).Yields s (.ok ()) _ := Act.attachAt_yields haimed rfl
  obtain ⟨log, ha⟩ := hy s.log
  have hf : Turn.furnish { c with started := true } = (.ok (), { c with
      started := true
      scene := { c.scene with top := c.opened, log := log } }) := by
    rw [Turn.furnish, bind_apply, get_apply]
    simp only [Turn.within, bind_apply, modify_apply, hlink]
    rw [show Act.attachAt [] .free (c.scene.modifyManager [] fun m =>
      { m with frontEnd := c.frontEnd, state := c.initial }) = _ from ha]
    rfl
  have hopen : (Entry.start limit).gate c = (do
      Turn.furnish
      Turn.write .info s!"Conversation {c.id} started at '{c.scene.top.name}'"
      pure (Task.execute [])) { c with started := true } := by
    rw [Entry.gate, Turn.opening, bind_apply, get_apply]
    simp only [h]
    rfl
  rw [hopen, bind_apply, hf]
  exact ⟨_, rfl⟩

/-- An input is noted and counted, and handed down next. -/
theorem gate_deliver (limit : Nat) (v : Value) (h : c.accepts) : ∃ log,
    (Entry.deliver limit v).gate c = (.ok (.input [] v), { c with
      turns := c.turns + 1
      scene := { c.scene with
        events := c.scene.events ++ c.heard (.deliver limit v)
        log := log } }) := by
  simp only [accepts, Bool.and_eq_true, Bool.not_eq_true'] at h
  obtain ⟨⟨hs, hf⟩, ha⟩ := h
  rw [Entry.gate, Turn.acceptance, bind_apply, get_apply, heard, Entry.inputs]
  obtain ⟨scene, frontEnd, initial, id, started, turns⟩ := c
  cases hs
  simp only [hf, ha]
  cases frontEnd.any FrontEnd.keepsInputs with
  | true => exact ⟨_, rfl⟩
  | false =>
    simp only [Bool.false_eq_true, if_false, List.append_nil]
    exact ⟨_, rfl⟩

theorem part?_furnish (hm : c.scene.top.part? [] = some (.manager m keys)) :
    (c.scene.top.mapManager fun m =>
      { m with frontEnd := c.frontEnd, state := c.initial }).part? [] =
        some (.manager { m with frontEnd := c.frontEnd, state := c.initial } keys) := by
  rw [part?_mapManager_top, if_pos rfl, hm]
  rfl

/-- The outermost manager has the front end of the conversation. -/
theorem frontEnd_opened (hm : c.scene.top.part? [] = some (.manager m keys)) :
    c.opened.session.frontEnd = c.frontEnd := by
  have ho : c.opened.part? [] = some _ := part?_attach_nil.trans (congrArg _ (part?_furnish hm))
  rw [session_eq ho]

/-! ### Phases -/

/-- The front end takes all that it is told. -/
def IsReceptive (c : Conversation) : Prop :=
  ∃ frontEnd, c.frontEnd = some frontEnd ∧ ∀ e, frontEnd.refusal e = none

/-- Nothing has been called of the conversation yet. -/
structure IsFresh (c : Conversation) : Prop where
  started : c.started = false
  new : c.scene.top.IsNew
  outermost : ∃ m keys, c.scene.top.part? [] = some (.manager m keys)

/-- Once attached, the flow of a fresh conversation can be executed. -/
theorem IsFresh.inFlight_opened (h : c.IsFresh) : InFlight c.opened (.execute []) := by
  obtain ⟨m, keys, hm⟩ := h.outermost
  exact (h.new.furnish _ _).inFlight_attach (part?_furnish hm)

/-- The conversation has been started, and its flow has its front end. -/
structure IsStarted (c : Conversation) : Prop where
  started : c.started = true
  frontEnd : c.scene.top.session.frontEnd = c.frontEnd

/-- Where a conversation stands between two calls. -/
inductive Phase (c : Conversation) : Prop
  | fresh : c.IsFresh → Phase c
  | waiting {a : Address} : c.IsStarted → c.scene.top.WaitsAt a → Phase c
  | ended : c.IsStarted → c.scene.top.IsOver → Phase c
  | failed : c.IsStarted → c.scene.top.Wired → c.scene.top.IsUnsettled → Phase c

/-- The conversation waits for an input or is over. -/
def IsLive (c : Conversation) : Prop :=
  c.IsStarted ∧ ((∃ a, c.scene.top.WaitsAt a) ∨ c.scene.top.IsOver)

theorem root?_eq (h : c.scene.top.Wired) : c.root? = some c.scene.top.session :=
  Scene.manager?_nil h

theorem isOutermost_session {e : Element} (h : e.Wired) : e.session.isOutermost = true := by
  obtain ⟨m, keys, hm, hl⟩ := h.outermost
  rw [session_eq hm]
  exact decide_eq_true hl

theorem isFinished_eq (h : c.scene.top.Wired) : c.isFinished = c.scene.top.session.finished := by
  simp [isFinished, root?_eq h, isOutermost_session h]

theorem isAwaiting_eq (h : c.scene.top.Wired) : c.isAwaiting = c.scene.top.session.awaiting := by
  simp [isAwaiting, root?_eq h, isOutermost_session h]

/-- A fresh conversation neither waits nor is over. -/
theorem IsFresh.root? (h : c.IsFresh) :
    ∃ m, c.root? = some m ∧ m.awaiting = false ∧ m.finished = false := by
  obtain ⟨m, keys, hm⟩ := h.outermost
  obtain ⟨cs, hx, -⟩ := at?_manager hm
  obtain ⟨-, -, -, ha, hf⟩ := h.new hm
  exact ⟨m, by rw [Conversation.root?, Scene.manager?, hx], ha, hf⟩

theorem IsFresh.isFinished (h : c.IsFresh) : c.isFinished = false := by
  obtain ⟨m, hm, -, hf⟩ := h.root?
  simp [Conversation.isFinished, hm, hf]

theorem IsFresh.isAwaiting (h : c.IsFresh) : c.isAwaiting = false := by
  obtain ⟨m, hm, ha, -⟩ := h.root?
  simp [Conversation.isAwaiting, hm, ha]

/-- Where the flag says so, a leaf waits for an input. -/
theorem Phase.waitsAt (h : c.Phase) (hw : c.isAwaiting = true) :
    c.IsStarted ∧ ∃ a, c.scene.top.WaitsAt a := by
  cases h with
  | fresh h =>
    rw [h.isAwaiting] at hw
    cases hw
  | waiting h ha => exact ⟨h, _, ha⟩
  | ended h ho =>
    rw [isAwaiting_eq ho.wired, ho.awaiting] at hw
    cases hw
  | failed h hwired hu =>
    rw [isAwaiting_eq hwired, hu.1] at hw
    cases hw

theorem Phase.isOver (h : c.Phase) (hf : c.isFinished = true) :
    c.IsStarted ∧ c.scene.top.IsOver := by
  cases h with
  | fresh h =>
    rw [h.isFinished] at hf
    cases hf
  | waiting h ha =>
    rw [isFinished_eq ha.wired, ha.finished] at hf
    cases hf
  | ended h ho => exact ⟨h, ho⟩
  | failed h hw hu =>
    rw [isFinished_eq hw, hu.2] at hf
    cases hf

/-- A conversation that waits takes an input. -/
theorem accepts_of_waitsAt {a : Address} (h : c.IsStarted) (hw : c.scene.top.WaitsAt a) :
    c.accepts = true := by
  simp [accepts, h.started, isFinished_eq hw.wired, isAwaiting_eq hw.wired, hw.finished,
    hw.awaiting]

/-- One that is over or has failed takes nothing. -/
theorem admits_eq_false (h : c.IsStarted) (ha : c.accepts = false) (x : Entry) :
    c.admits x = false := by
  cases x with
  | start => simp [admits, h.started]
  | deliver => exact ha

theorem accepts_of_isOver (h : c.scene.top.IsOver) : c.accepts = false := by
  simp [accepts, isFinished_eq h.wired, h.finished]

theorem accepts_of_isUnsettled (h : c.scene.top.Wired) (hu : c.scene.top.IsUnsettled) :
    c.accepts = false := by
  simp [accepts, isAwaiting_eq h, hu.1]

/-! ### What a call does -/

/-- The flow is new or in use. -/
def IsIntact (c : Conversation) : Prop :=
  c.IsFresh ∨ c.started = true ∧ c.scene.top.Wired

/-- The entry runs the flow as the course says. -/
structure Performs (c : Conversation) (x : Entry) (r : Course) : Prop where
  fits : x.first.Fits (c.flowFor x)
  runs : x.first.Runs x.limit (c.flowFor x) r
  result : (x.turn c).1 = r.result
  enter : ∃ log, c.enter x = { c with
    started := true
    turns := c.turns + x.inputs.length
    scene := { c.scene with
      top := r.top
      events := c.scene.events ++ c.heard x ++ r.events
      calls := c.scene.calls ++ r.calls
      log := log } }
  tasks : (x.tasks c).map (fun p => (p.1.top, p.2)) = r.tasks

/-- The conversation when an entry has been taken, before its first task. -/
def taking (c : Conversation) (x : Entry) (log : List LogEntry) : Conversation :=
  { c with
    started := true
    turns := c.turns + x.inputs.length
    scene := { c.scene with
      top := c.flowFor x
      events := c.scene.events ++ c.heard x
      log := log } }

/-- An entry that is not refused out of hand is taken. -/
theorem gate_of_admits (h : c.IsIntact) (ha : c.admits x = true) :
    ∃ log, x.gate c = (.ok x.first, c.taking x log) := by
  cases x with
  | start limit =>
    have hs : c.started = false := by simpa [admits] using ha
    rcases h with h | ⟨h, -⟩
    · obtain ⟨m, keys, hm⟩ := h.outermost
      obtain ⟨log, hg⟩ := gate_start limit hs h.new hm
      exact ⟨log, by rw [hg]; simp [taking, heard, Entry.inputs, Entry.first, flowFor]⟩
    · rw [h] at hs
      cases hs
  | deliver limit v =>
    obtain ⟨log, hg⟩ := gate_deliver limit v ha
    have hs : c.started = true := by
      rw [admits, accepts, Bool.and_eq_true, Bool.and_eq_true] at ha
      exact ha.1.1
    exact ⟨log, by rw [hg]; simp [taking, Entry.inputs, Entry.first, flowFor, hs]⟩

/-- What it finds is wired. -/
theorem wired_flowFor (h : c.IsIntact) (ha : c.admits x = true) : (c.flowFor x).Wired := by
  cases x with
  | start limit =>
    rcases h with h | ⟨h, -⟩
    · exact h.inFlight_opened.fits.wired
    · simp [admits, h] at ha
  | deliver limit v =>
    rcases h with h | ⟨-, h⟩
    · simp [admits, accepts, h.started] at ha
    · exact h

/-- An entry that is not refused out of hand runs the flow. -/
theorem performs_of_admits (h : c.IsIntact) (ha : c.admits x = true) : ∃ r, c.Performs x r := by
  obtain ⟨log, hg⟩ := gate_of_admits h ha
  obtain ⟨log', ht⟩ := x.turn_of_gate_ok hg
  have hf : x.first.Fits (c.taking x log).scene.top := by
    cases x <;> exact InUse.top (wired_flowFor h ha)
  obtain ⟨r, hr, ⟨log'', hrun⟩, htasks⟩ := Task.run_spec (n := x.limit) hf
  rw [hrun] at ht
  refine ⟨r, hf, hr, congrArg Prod.fst ht, ⟨log', ?_⟩, ?_⟩
  · rw [Conversation.enter, ht]
    simp [Course.scene, taking]
  · rw [Entry.tasks, hg]
    exact htasks

namespace Performs

variable {r : Course}

theorem top (h : c.Performs x r) : (c.enter x).scene.top = r.top := by
  obtain ⟨log, he⟩ := h.enter
  rw [he]

theorem started (h : c.Performs x r) : (c.enter x).started = true := by
  obtain ⟨log, he⟩ := h.enter
  rw [he]

/-- What holds of the first task of an entry, and outlasts every step, holds of all its
    tasks. -/
theorem forall_tasks {I : Element → Task → Prop} (h : c.Performs x r)
    (hfirst : I (c.flowFor x) x.first)
    (hstep : ∀ {e t o t'}, I e t → t.Step e o → o.result = .ok (some t') → I o.top t') :
    ∀ q ∈ x.tasks c, I q.1.top q.2 := by
  intro q hq
  have hmem : (q.1.top, q.2) ∈ r.tasks := by
    rw [← h.tasks]
    exact List.mem_map_of_mem (f := fun q => (q.1.top, q.2)) hq
  exact h.runs.forall_tasks hfirst hstep _ hmem

/-- From each of its tasks on, the entry is a run that comes to the same result. -/
theorem exists_rest (h : c.Performs x r) {q : Scene × Task} (hq : q ∈ x.tasks c) :
    ∃ k r', q.2.Runs (k + 1) q.1.top r' ∧ r'.result = (x.turn c).1 ∧
      r'.top = (c.enter x).scene.top := by
  have hmem : (q.1.top, q.2) ∈ r.tasks := by
    rw [← h.tasks]
    exact List.mem_map_of_mem (f := fun q => (q.1.top, q.2)) hq
  obtain ⟨k, r', hr, hresult, htop⟩ := h.runs.exists_rest hmem
  exact ⟨k, r', hr, hresult.trans h.result.symm, htop.trans h.top.symm⟩

theorem frontEnd_enter (h : c.Performs x r) : (c.enter x).frontEnd = c.frontEnd := by
  obtain ⟨log, he⟩ := h.enter
  rw [he]

theorem wired (h : c.Performs x r) : (c.enter x).scene.top.Wired := by
  rw [h.top]
  exact h.runs.wired h.fits

end Performs

/-! ### Calls in their phases -/

/-- The entry runs the flow, which waits for it or is new. -/
structure Takes (c : Conversation) (x : Entry) (r : Course) : Prop extends c.Performs x r where
  begins : x.first.Begins (c.flowFor x)
  frontEnd : (c.flowFor x).session.frontEnd = c.frontEnd

theorem Phase.isIntact (h : c.Phase) : c.IsIntact := by
  cases h with
  | fresh h => exact .inl h
  | waiting h ha => exact .inr ⟨h.started, ha.wired⟩
  | ended h ho => exact .inr ⟨h.started, ho.wired⟩
  | failed h hw hu => exact .inr ⟨h.started, hw⟩

/-- A conversation that has not been started is fresh. -/
theorem Phase.isFresh (h : c.Phase) (hs : c.started = false) : c.IsFresh := by
  cases h with
  | fresh h => exact h
  | waiting h _ | ended h _ | failed h _ _ =>
    rw [h.started] at hs
    cases hs

/-- In each phase, an entry that is not refused out of hand is what the flow waits
    for. -/
theorem takes_of_admits (h : c.Phase) (ha : c.admits x = true) : ∃ r, c.Takes x r := by
  obtain ⟨r, hr⟩ := performs_of_admits h.isIntact ha
  cases x with
  | start limit =>
    have hfresh := h.isFresh (by simpa [admits] using ha)
    obtain ⟨m, keys, hm⟩ := hfresh.outermost
    exact ⟨r, hr, .execute hfresh.inFlight_opened, frontEnd_opened hm⟩
  | deliver limit v =>
    obtain ⟨-, hw⟩ : (c.started = true ∧ c.isFinished = false) ∧ c.isAwaiting = true := by
      simpa [admits, accepts] using ha
    obtain ⟨hs, a, hwait⟩ := h.waitsAt hw
    exact ⟨r, hr, .input v hwait, hs.frontEnd⟩

namespace Takes

variable {r : Course}

theorem ending (h : c.Takes x r) : r.Ending := by
  obtain ⟨n, hn⟩ := x.exists_limit
  exact (hn ▸ h.runs).ending h.begins

theorem isStarted (h : c.Takes x r) : (c.enter x).IsStarted :=
  ⟨h.started, by rw [h.top, h.runs.frontEnd_eq, h.frontEnd, h.frontEnd_enter]⟩

/-- At each of its tasks a turn begins or is under way. -/
theorem begins_or_inFlight (h : c.Takes x r) :
    ∀ q ∈ x.tasks c, q.2.Begins q.1.top ∨ InFlight q.1.top q.2 := by
  refine h.forall_tasks (I := fun e t => t.Begins e ∨ InFlight e t) (.inl h.begins) ?_
  intro e t o t' hI hs ho
  rcases hI with hb | hi
  · exact .inr (hb.inFlight hs ho)
  · exact .inr (hs.inFlight hi ho)

/-- The front end of the session stays that of the conversation. -/
theorem frontEnd_tasks (h : c.Takes x r) :
    ∀ q ∈ x.tasks c, q.1.top.session.frontEnd = c.frontEnd :=
  h.forall_tasks (I := fun e _ => e.session.frontEnd = c.frontEnd) h.frontEnd
    fun he hs _ => hs.frontEnd_eq.trans he

theorem isReceptive_flowFor (h : c.Takes x r) (hr : c.IsReceptive) :
    (c.flowFor x).session.IsReceptive := by
  rw [Manager.IsReceptive, h.frontEnd]
  exact hr

/-- A call that does not fail leaves a question or the end. -/
theorem isLive (h : c.Takes x r) (hok : (x.turn c).1 = .ok ()) : (c.enter x).IsLive := by
  refine ⟨h.isStarted, ?_⟩
  rw [h.top]
  cases h.ending with
  | asked _ _ _ ha => exact .inl ⟨_, ha⟩
  | ended _ ho => exact .inr ho
  | failed hc =>
    rw [h.result, hc] at hok
    cases hok

/-- One that fails leaves the session unsettled. -/
theorem of_error (h : c.Takes x r) (hr : c.IsReceptive) {cause : Fault}
    (he : (x.turn c).1 = .error cause) :
    (c.enter x).scene.top.Wired ∧ (c.enter x).scene.top.IsUnsettled := by
  rw [h.result] at he
  obtain ⟨n, hn⟩ := x.exists_limit
  have hu := (hn ▸ h.runs).isUnsettled h.begins (h.isReceptive_flowFor hr) he
  exact ⟨h.wired, h.top ▸ hu⟩

/-- Whatever the front end takes, the call leaves the conversation in a phase. -/
theorem phase (h : c.Takes x r) : (c.enter x).Phase := by
  cases hc : (x.turn c).1 with
  | error cause =>
    rw [h.result] at hc
    obtain ⟨n, hn⟩ := x.exists_limit
    rcases (hn ▸ h.runs).failed_cases_of_begins h.begins hc with hu | ⟨a, ha⟩ | ho
    · exact .failed h.isStarted h.wired (h.top ▸ hu)
    · exact .waiting h.isStarted (h.top ▸ ha)
    · exact .ended h.isStarted (h.top ▸ ho)
  | ok =>
    obtain ⟨hs, ⟨a, ha⟩ | ho⟩ := h.isLive hc
    · exact .waiting hs ha
    · exact .ended hs ho

end Takes

/-! ### Histories -/

/-- What every entry that is taken keeps, a history keeps. -/
theorem foldl_enter {P : Conversation → Prop}
    (hentry : ∀ {c x}, P c → c.admits x = true → P (c.enter x)) (h : P c) (xs : List Entry) :
    P (xs.foldl Conversation.enter c) := by
  induction xs generalizing c with
  | nil => exact h
  | cons x xs ih =>
    cases ha : c.admits x with
    | false =>
      rw [List.foldl_cons, x.enter_of_refused ha]
      exact ih h
    | true => exact ih (hentry h ha)

theorem IsReceptive.enter (hr : c.IsReceptive) (h : c.Phase) (x : Entry) :
    (c.enter x).IsReceptive := by
  cases ha : c.admits x with
  | false => rw [x.enter_of_refused ha]; exact hr
  | true =>
    obtain ⟨r, ht⟩ := takes_of_admits h ha
    rw [IsReceptive, ht.frontEnd_enter]
    exact hr

/-- Every call leads from one phase to another. -/
theorem Phase.enter (h : c.Phase) (x : Entry) : (c.enter x).Phase := by
  cases ha : c.admits x with
  | false => rw [x.enter_of_refused ha]; exact h
  | true =>
    obtain ⟨r, ht⟩ := takes_of_admits h ha
    exact ht.phase

theorem Phase.foldl (h : c.Phase) (hr : c.IsReceptive) (xs : List Entry) :
    (xs.foldl Conversation.enter c).Phase ∧ (xs.foldl Conversation.enter c).IsReceptive := by
  induction xs generalizing c with
  | nil => exact ⟨h, hr⟩
  | cons x xs ih => exact ih (h.enter x) (hr.enter h x)

theorem Calls.phase {c₀ : Conversation} {rs : List Request} (hc : c₀.Calls rs c x) (h : c₀.Phase)
    (hr : c₀.IsReceptive) : c.Phase ∧ c.IsReceptive := by
  obtain ⟨xs, ys, -, rfl⟩ := hc
  exact h.foldl hr xs

theorem Phase.afterAll (h : c.Phase) (hr : c.IsReceptive) (rs : List Request) :
    (c.afterAll rs).Phase := by
  rw [afterAll_eq_foldl]
  exact (h.foldl hr _).1

/-- A conversation that refuses every call stays as it is. -/
theorem foldl_of_refused (h : ∀ x, c.admits x = false) (xs : List Entry) :
    xs.foldl enter c = c := by
  induction xs with
  | nil => rfl
  | cons x xs ih => rw [List.foldl_cons, x.enter_of_refused (h x), ih]

theorem afterAll_of_refused (h : ∀ x, c.admits x = false) (rs : List Request) :
    c.afterAll rs = c := by
  rw [afterAll_eq_foldl, foldl_of_refused h]

/-- A conversation over a built flow is fresh. -/
theorem ofBlueprint_ok {b : Blueprint} {root id : String} {frontEnd : Option FrontEnd}
    {state : Value} (h : ofBlueprint b root frontEnd state id = .ok c) :
    c.IsFresh ∧ c.frontEnd = frontEnd ∧ c.scene.events = [] ∧ c.turns = 0 ∧
      c.scene.top.IsFrom b := by
  obtain ⟨top, hb, h⟩ := ok_of_bind h
  obtain ⟨hnew, hfrom, m, cs, rfl, -⟩ := Blueprint.build_ok hb
  have hm : m.isOutermost = true := decide_eq_true (hnew (a := []) rfl).1
  rw [begin?, Scene.ofElement] at h
  simp only [hm, if_true] at h
  cases hs : Mapping.ofValue state with
  | error cause => rw [hs] at h; cases h
  | ok initial =>
    rw [hs] at h
    cases h
    exact ⟨⟨rfl, hnew, _, _, rfl⟩, rfl, rfl, rfl, hfrom⟩

end Conversation

end Parley

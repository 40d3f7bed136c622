import Parley.Proofs.Flow.Report

/-!
# Steps of a traversal

What a step of the traversal does to a flow in use, as a relation between the
flow, the task and the outcome (`Task.Step`): the next task or the fault, the
flow as it is then, and what has been added to the events and to the calls.

`Task.step_spec` says that the machine does one of these steps, whatever task is
at hand, as long as the task fits the flow (`Task.Fits`). So what all steps
preserve can be shown by cases on the relation, without a look at the machine.
-/

namespace Parley

open Element

/-! ### Decisions of managers -/

namespace Manager

/-- Where a manager goes when the traversal of its children is over. -/
def decision (m : Manager) (state : Mapping) : Except Fault Decision :=
  match m.decider with
  | none => .ok ⟨.null, .null⟩
  | some d => d.decision none state

/-- The consultation that this takes, if the manager has a decider. -/
def consultations (m : Manager) (state : Mapping) : List Call :=
  match m.decider with
  | none => []
  | some d => [⟨m.name, d.label, none, state⟩]

theorem decision_congr {m m' : Manager} (hd : m'.decider = m.decider) (state : Mapping) :
    m'.decision state = m.decision state := by
  rw [decision, decision, hd]

theorem consultations_congr {m m' : Manager} (hn : m'.name = m.name) (hd : m'.decider = m.decider)
    (state : Mapping) : m'.consultations state = m.consultations state := by
  rw [consultations, consultations, hd, hn]

/-- The fault with which a manager refuses to move to what it does not hold. -/
def stray (m : Manager) (target : Value) : Fault :=
  if !target.isKey then .misuse .kind
  else if target.isWritable then .configuration (.unknownNode m.name target.plain)
  else .misuse .digits

theorem stray_cases (m : Manager) (target : Value) :
    m.stray target = .configuration (.unknownNode m.name target.plain) ∨
      ∃ cause, m.stray target = .misuse cause := by
  unfold stray
  split
  · exact .inr ⟨_, rfl⟩
  · split
    · exact .inl rfl
    · exact .inr ⟨_, rfl⟩

theorem stray_congr {m m' : Manager} (hn : m'.name = m.name) (target : Value) :
    m'.stray target = m.stray target := by
  rw [stray, stray, hn]

end Manager

/-- What a decision asks of the manager that it is reported to. -/
def Decision.task (d : Decision) (p : Address) : Task :=
  if d.finishes then .close p else .move p d.next

theorem Decision.task_of_finishes {d : Decision} (h : d.finishes = true) (p : Address) :
    d.task p = .close p :=
  if_pos h

theorem Decision.task_of_unfinished {d : Decision} (h : d.finishes = false) (p : Address) :
    d.task p = .move p d.next :=
  if_neg (ne_true_of_eq_false h)

/-- The null of a decision that finishes can be written. -/
theorem Decision.isWritable_of_finishes {d : Decision} (h : d.finishes = true) :
    d.next.isWritable = true := by
  unfold finishes Value.isNull at h
  split at h
  · rename_i hn
    rw [hn]
    rfl
  · cases h

theorem Decision.finishes_of_not_isWritable {d : Decision} (h : d.next.isWritable = false) :
    d.finishes = false :=
  eq_false_of_ne_true fun hf => by cases (isWritable_of_finishes hf).symm.trans h

/-- A decision finishes, or names a target, which can be written or cannot. -/
theorem Decision.target_cases (d : Decision) : d.finishes = true ∨
    (d.finishes = false ∧ d.next.isWritable = true) ∨ d.next.isWritable = false := by
  cases d.finishes with
  | true => exact .inl rfl
  | false =>
    cases d.next.isWritable with
    | true => exact .inr (.inl ⟨rfl, rfl⟩)
    | false => exact .inr (.inr rfl)

/-! ### The relation -/

/-- What a step comes to: the next task or a fault, the flow, and the events and
    the calls that it adds. -/
structure Outcome where
  result : Except Fault (Option Task)
  top : Element
  events : List Event
  calls : List Call

/-- The scene that an outcome makes of a scene, up to its log. -/
def Outcome.scene (o : Outcome) (s : Scene) : Scene :=
  { s with top := o.top, events := s.events ++ o.events, calls := s.calls ++ o.calls }

namespace Task

/-- The element that a task is about. -/
def element : Task → Address
  | .execute a | .input a _ | .move a _ | .close a => a

/-- The task fits the flow: what it is about is in use, and a manager that moves
    or closes has all managers below it back at their roots. -/
def Fits (e : Element) : Task → Prop
  | .execute a | .input a _ => e.InUse a
  | .move a _ | .close a =>
    e.InUse a ∧ e.RewoundBelow a ∧ ∃ m keys, e.part? a = some (.manager m keys)

/-- The steps of a traversal. -/
inductive Step (e : Element) : Task → Outcome → Prop
  -- A leaf is executed: it shows its output, and then asks or passes on.
  | unshown {a : Address} {l : Leaf} {cause : Fault} {shown : List Event} :
      e.part? a = some (.leaf l) → Shows e.session l.output (.error cause) shown →
      Step e (.execute a) ⟨.error cause, e.setStatus a .executing, shown, []⟩
  | passed {a : Address} {l : Leaf} {shown : List Event} :
      e.part? a = some (.leaf l) → Shows e.session l.output (.ok ()) shown →
      l.expectation = none →
      Step e (.execute a) ⟨.ok (some (.input a .null)), e.setStatus a .executing, shown, []⟩
  | asked {a : Address} {l : Leaf} {shown : List Event} {question : Emitter}
      {r : Except Fault Unit} {asked : List Event} {awaiting : Bool} :
      e.part? a = some (.leaf l) → Shows e.session l.output (.ok ()) shown →
      l.expectation = some question → Asks e.session question r asked awaiting →
      Step e (.execute a) ⟨r.map fun _ => none,
        (e.setStatus a .awaitingInput).setAwaiting awaiting, shown ++ asked, []⟩
  -- A manager is executed: the child at its cursor is, unless the session is over.
  | entered {a : Address} {m : Manager} {keys : List String} {key : String} :
      e.part? a = some (.manager m keys) → m.cursor = some key →
      (a = [] → m.finished = false) →
      Step e (.execute a) ⟨.ok (some (.execute (key :: a))), e, [], []⟩
  | overrun {m : Manager} {keys : List String} :
      e.part? [] = some (.manager m keys) → m.finished = true →
      Step e (.execute []) ⟨.error (.protocol (.alreadyEnded m.name)), e, [], []⟩
  -- A leaf gets an input: it decides, its patch is merged, and it reports; what it
  -- reports is written to the log first.
  | undecided {p : Address} {key : String} {l : Leaf} {v : Value} {cause : Fault} :
      e.part? (key :: p) = some (.leaf l) →
      l.decider.decision (some v) e.session.state = .error cause →
      Step e (.input (key :: p) v)
        ⟨.error cause, e, [], [⟨l.name, l.decider.label, some v, e.session.state⟩]⟩
  | unmerged {p : Address} {key : String} {l : Leaf} {v : Value} {d : Decision} {cause : Fault}
      {state : Mapping} :
      e.part? (key :: p) = some (.leaf l) →
      l.decider.decision (some v) e.session.state = .ok d →
      Merges e.session.state d.patch (.error cause) state →
      Step e (.input (key :: p) v) ⟨.error cause, e.setState state, [],
        [⟨l.name, l.decider.label, some v, e.session.state⟩]⟩
  | unnamed {p : Address} {key : String} {l : Leaf} {v : Value} {d : Decision} {state : Mapping} :
      e.part? (key :: p) = some (.leaf l) →
      l.decider.decision (some v) e.session.state = .ok d →
      Merges e.session.state d.patch (.ok ()) state → d.next.isWritable = false →
      Step e (.input (key :: p) v) ⟨.error (.misuse .digits),
        (e.setState state).setStatus (key :: p) .resolved, [],
        [⟨l.name, l.decider.label, some v, e.session.state⟩]⟩
  | decided {p : Address} {key : String} {l : Leaf} {v : Value} {d : Decision} {state : Mapping} :
      e.part? (key :: p) = some (.leaf l) →
      l.decider.decision (some v) e.session.state = .ok d →
      Merges e.session.state d.patch (.ok ()) state → d.next.isWritable = true →
      Step e (.input (key :: p) v) ⟨.ok (some (d.task p)),
        (e.setState state).setStatus (key :: p) .resolved, [],
        [⟨l.name, l.decider.label, some v, e.session.state⟩]⟩
  -- A manager gets an input: it goes down, if the session waits for it.
  | refusedEnded {m : Manager} {keys : List String} {v : Value} :
      e.part? [] = some (.manager m keys) → m.finished = true →
      Step e (.input [] v) ⟨.error (.protocol .inputAfterEnd), e, [], []⟩
  | refusedUnasked {m : Manager} {keys : List String} {v : Value} :
      e.part? [] = some (.manager m keys) → m.finished = false → m.awaiting = false →
      Step e (.input [] v) ⟨.error (.protocol .inputUnexpected), e, [], []⟩
  | accepted {m : Manager} {keys : List String} {key : String} {v : Value} :
      e.part? [] = some (.manager m keys) → m.finished = false → m.awaiting = true →
      m.cursor = some key →
      Step e (.input [] v) ⟨.ok (some (.input [key] v)), e.setAwaiting false, [], []⟩
  | handed {p : Address} {k key : String} {m : Manager} {keys : List String} {v : Value} :
      e.part? (k :: p) = some (.manager m keys) → m.cursor = some key →
      Step e (.input (k :: p) v) ⟨.ok (some (.input (key :: k :: p) v)), e, [], []⟩
  -- A manager moves to another child.
  | strayed {a : Address} {m : Manager} {keys : List String} {target : Value} :
      e.part? a = some (.manager m keys) → (∀ key ∈ keys, target ≠ .text key) →
      Step e (.move a target) ⟨.error (m.stray target), e, [], []⟩
  | moved {a : Address} {m : Manager} {keys : List String} {key : String} :
      e.part? a = some (.manager m keys) → key ∈ keys →
      Step e (.move a (.text key)) ⟨.ok (some (.execute a)), e.moveTo a key, [], []⟩
  -- A manager closes: it decides, its patch is merged, and it goes back to its
  -- root and reports, or ends the session.
  | closeUndecided {a : Address} {m : Manager} {keys : List String} {cause : Fault} :
      e.part? a = some (.manager m keys) → m.decision e.session.state = .error cause →
      Step e (.close a) ⟨.error cause, e, [], m.consultations e.session.state⟩
  | closeUnmerged {a : Address} {m : Manager} {keys : List String} {d : Decision} {cause : Fault}
      {state : Mapping} :
      e.part? a = some (.manager m keys) → m.decision e.session.state = .ok d →
      Merges e.session.state d.patch (.error cause) state →
      Step e (.close a) ⟨.error cause, e.setState state, [], m.consultations e.session.state⟩
  | closeUnnamed {a : Address} {m : Manager} {keys : List String} {d : Decision}
      {state : Mapping} :
      e.part? a = some (.manager m keys) → m.decision e.session.state = .ok d →
      Merges e.session.state d.patch (.ok ()) state → d.next.isWritable = false →
      Step e (.close a) ⟨.error (.misuse .digits), e.setState state, [],
        m.consultations e.session.state⟩
  | closed {p : Address} {key : String} {m : Manager} {keys : List String} {d : Decision}
      {state : Mapping} :
      e.part? (key :: p) = some (.manager m keys) → m.decision e.session.state = .ok d →
      Merges e.session.state d.patch (.ok ()) state → d.next.isWritable = true →
      Step e (.close (key :: p)) ⟨.ok (some (d.task p)),
        (e.setState state).setCursor (key :: p) m.root, [], m.consultations e.session.state⟩
  | ended {m : Manager} {keys : List String} {d : Decision} {state : Mapping} :
      e.part? [] = some (.manager m keys) → m.decision e.session.state = .ok d →
      Merges e.session.state d.patch (.ok ()) state → d.finishes = true →
      e.session.reception .ended = .ok () →
      Step e (.close []) ⟨.ok none, (e.setState state).setFinished, [.ended],
        m.consultations e.session.state⟩
  | endRefused {m : Manager} {keys : List String} {d : Decision} {state : Mapping}
      {cause : Fault} :
      e.part? [] = some (.manager m keys) → m.decision e.session.state = .ok d →
      Merges e.session.state d.patch (.ok ()) state → d.finishes = true →
      e.session.reception .ended = .error cause →
      Step e (.close []) ⟨.error cause, (e.setState state).setFinished, [],
        m.consultations e.session.state⟩
  | routedOutside {m : Manager} {keys : List String} {d : Decision} {state : Mapping} :
      e.part? [] = some (.manager m keys) → m.decision e.session.state = .ok d →
      Merges e.session.state d.patch (.ok ()) state → d.finishes = false →
      d.next.isWritable = true →
      Step e (.close []) ⟨.error (.configuration (.routedOutside m.name d.next.plain)),
        e.setState state, [], m.consultations e.session.state⟩

end Task

namespace Act

variable {s : Scene} {a p : Address} {key : String} {l : Leaf} {m : Manager}
  {cs : List (String × Element)} {keys : List String} {v target : Value}

/-- The act does one of the steps of the task. -/
def Performs (x : Act (Option Task)) (t : Task) (s : Scene) : Prop :=
  ∃ o, t.Step s.top o ∧ x.Yields s o.result (o.scene s)

/-- A step that leaves the scene as it is. -/
theorem Performs.still {x : Act (Option Task)} {t : Task} {r : Except Fault (Option Task)}
    (hs : t.Step s.top ⟨r, s.top, [], []⟩) (hx : x.Yields s r s) : x.Performs t s :=
  ⟨_, hs, by simpa [Outcome.scene] using hx⟩

/-- What an act does in a scene, another one does that is the same there. -/
theorem Performs.of_eq {x y : Act (Option Task)} {t : Task} (h : x.Performs t s)
    (hxy : ∀ log, y { s with log := log } = x { s with log := log }) : y.Performs t s := by
  obtain ⟨o, hs, hy⟩ := h
  refine ⟨o, hs, fun log => ?_⟩
  rw [hxy]
  exact hy log

/-! ### Executing -/

/-- A leaf that has shown its output asks what it has to ask, or passes on. -/
theorem askInput_spec (h : s.top.InUse (key :: p))
    (hl : s.top.part? (key :: p) = some (.leaf l)) {shown : List Event}
    (hs : Shows s.top.session l.output (.ok ()) shown) :
    ∃ o, (Task.execute (key :: p)).Step s.top o ∧
      (askInput (.manager p) (key :: p) l).Yields
        { s with top := s.top.setStatus (key :: p) .executing, events := s.events ++ shown }
        o.result (o.scene s) := by
  unfold askInput
  cases he : l.expectation with
  | none =>
    refine ⟨_, .passed hl hs he, ?_⟩
    simp only [Outcome.scene, List.append_nil]
    exact pure_yields _
  | some e =>
    let s' : Scene :=
      { s with top := s.top.setStatus (key :: p) .awaitingInput, events := s.events ++ shown }
    have hse : s'.top.session = s.top.session := session_modifyAt_cons
    have h' : s'.top.InUse p := h.tail.of_sameSkeleton (sameSkeleton_setStatus _).symm
    obtain ⟨r, asked, awaiting, ha, hy⟩ := emit_expectation h' e
    rw [hse] at ha
    have hset : (modify fun s => s.modifyLeaf (key :: p) fun l =>
        { l with status := .awaitingInput } : Act Unit).Yields
        { s with top := s.top.setStatus (key :: p) .executing, events := s.events ++ shown }
        (.ok ()) s' :=
      modify_yields fun log =>
        congrArg (fun top => { s' with top := top, log := log }) (setStatus_setStatus _ _)
    refine ⟨_, .asked hl hs he ha, .bind hset ?_⟩
    simp only [Outcome.scene, List.append_nil, ← List.append_assoc]
    cases r with
    | error cause => exact .bind_error hy
    | ok => exact .bind hy (pure_yields _)

/-- A leaf shows what it has to show. -/
theorem showOutput_spec (h : s.top.InUse p) (l : Leaf) : ∃ r shown,
    Shows s.top.session l.output r shown ∧
      (showOutput (.manager p) l).Yields s r { s with events := s.events ++ shown } := by
  unfold showOutput
  cases l.output with
  | none => exact ⟨_, _, .silent, by simpa using pure_yields ()⟩
  | some e => exact emit_output h e

theorem executeLeaf_spec (h : s.top.InUse (key :: p))
    (hl : s.top.part? (key :: p) = some (.leaf l)) :
    (executeLeaf (key :: p) l).Performs (.execute (key :: p)) s := by
  let s' : Scene := { s with top := s.top.setStatus (key :: p) .executing }
  have hse : s'.top.session = s.top.session := session_modifyAt_cons
  have h' : s'.top.InUse p := h.tail.of_sameSkeleton (sameSkeleton_setStatus _).symm
  -- The leaf is attached, and is being executed when it shows something.
  have hopen {o : Outcome} (ho : Yields (do
      showOutput (.manager p) l
      askInput (.manager p) (key :: p) l) s' o.result (o.scene s)) :
      (executeLeaf (key :: p) l).Yields s o.result (o.scene s) := by
    refine .get_bind fun log => ?_
    rw [Scene.superior_cons (s := { s with log := log }) h.isAttached]
    exact .bind (modify_yields (u := s') fun _ => rfl) (.bind (write_yields _ _ _) ho)
  obtain ⟨r, shown, hs, hy⟩ := showOutput_spec h' l
  rw [hse] at hs
  cases r with
  | error cause =>
    refine ⟨_, .unshown hl hs, hopen ?_⟩
    simp only [Outcome.scene, List.append_nil]
    exact .bind_error hy
  | ok =>
    obtain ⟨o, hstep, hy'⟩ := askInput_spec h hl hs
    exact ⟨o, hstep, hopen (.bind hy hy')⟩

/-- The cursor of a manager in use is on one of its children. -/
theorem currentKey_yields (h : s.top.Wired) (hm : s.top.part? a = some (.manager m keys))
    (hcs : cs.map Prod.fst = keys) :
    ∃ key, m.cursor = some key ∧ ∀ s', (currentKey m cs).Yields s' (.ok key) s' := by
  obtain ⟨key, hk, hc⟩ := h.aimed hm
  refine ⟨key, hc, fun s' => ?_⟩
  have hany : cs.any (fun c => c.1 = key) := by
    rw [← hcs] at hk
    simpa using hk
  unfold currentKey
  rw [hc]
  simp only [hany]
  exact pure_yields key

/-- Only the manager at the top is the outermost one. -/
theorem isOutermost_eq (h : s.top.InUse a) (hm : s.top.part? a = some (.manager m keys)) :
    m.isOutermost = a.isEmpty := by
  cases a with
  | nil =>
    obtain ⟨p, hp, hl⟩ := h.isAttached
    rw [hm] at hp
    cases hp
    exact decide_eq_true hl
  | cons key a =>
    obtain ⟨-, p, hp, hl⟩ := h.isAttached
    rw [hm] at hp
    cases hp
    exact decide_eq_false fun hf => by cases hl.symm.trans hf

theorem executeManager_spec (h : s.top.InUse a) (hm : s.top.part? a = some (.manager m keys))
    (hcs : cs.map Prod.fst = keys) : (executeManager a m cs).Performs (.execute a) s := by
  obtain ⟨key, hc, hk⟩ := currentKey_yields h.wired hm hcs
  by_cases hf : m.isOutermost && m.finished
  · rw [Bool.and_eq_true, isOutermost_eq h hm, List.isEmpty_iff] at hf
    obtain ⟨rfl, hf⟩ := hf
    refine .still (.overrun hm hf) ?_
    unfold executeManager
    rw [isOutermost_eq h hm, hf]
    exact .bind_error (throw_yields _)
  · have hf' : a = [] → m.finished = false := by
      rintro rfl
      simpa [isOutermost_eq h hm] using hf
    refine .still (.entered hm hc hf') ?_
    unfold executeManager
    rw [if_neg hf]
    exact .bind (hk s) (pure_yields _)

/-! ### Taking an input -/

theorem display_yields (h : target.isWritable = true) :
    (orMisuse target.display).Yields s (.ok target.plain) s :=
  orMisuse_ok (Value.display_of_isWritable h)

theorem display_fails (h : target.isWritable = false) :
    (orMisuse target.display).Yields s (.error (.misuse .digits)) s :=
  orMisuse_error (Value.display_of_not_isWritable h)

/-- A decision is reported to the manager above. -/
theorem report_yields {d : Decision} (hw : d.next.isWritable = true) : Yields (if d.finishes then do
    let _ ← write .debug .node s!"Node '{l.name}' finished its manager's traversal"
    reportEnd (.manager p)
  else do
    let target ← orMisuse d.next.display
    let _ ← write .debug .node s!"Node '{l.name}' -> '{target}'"
    reportMove (.manager p) d.next) s (.ok (some (d.task p))) s := by
  unfold Decision.task
  split
  · exact .bind (write_yields _ _ _) (pure_yields _)
  · exact .bind (display_yields hw) (.bind (write_yields _ _ _) (pure_yields _))

/-- A decision whose target cannot be written is not reported. -/
theorem report_fails {d : Decision} (hw : d.next.isWritable = false) : Yields (if d.finishes then do
    let _ ← write .debug .node s!"Node '{l.name}' finished its manager's traversal"
    reportEnd (.manager p)
  else do
    let target ← orMisuse d.next.display
    let _ ← write .debug .node s!"Node '{l.name}' -> '{target}'"
    reportMove (.manager p) d.next) s (.error (.misuse .digits)) s := by
  rw [if_neg (ne_true_of_eq_false (Decision.finishes_of_not_isWritable hw))]
  exact .bind_error (display_fails hw)

theorem inputLeaf_spec (h : s.top.InUse (key :: p))
    (hl : s.top.part? (key :: p) = some (.leaf l)) :
    (inputLeaf (key :: p) l v).Performs (.input (key :: p) v) s := by
  let call : Call := ⟨l.name, l.decider.label, some v, s.top.session.state⟩
  let s' : Scene := { s with calls := s.calls ++ [call] }
  have hc := consult_spec (s := s) l.name l.decider (some v) s.top.session.state
  -- The leaf is attached, and its holder sees the state of the session.
  have hopen {r : Except Fault (Option Task)} {s₁ : Scene} (hr : Yields (do
      let d ← consult l.name l.decider (some v) s.top.session.state
      mergePatch (.manager p) d
      modify fun s => s.modifyLeaf (key :: p) fun l => { l with status := .resolved }
      if d.finishes then
        write .debug .node s!"Node '{l.name}' finished its manager's traversal"
        reportEnd (.manager p)
      else
        let target ← orMisuse d.next.display
        write .debug .node s!"Node '{l.name}' -> '{target}'"
        reportMove (.manager p) d.next) s r s₁) :
      (inputLeaf (key :: p) l v).Yields s r s₁ := by
    refine .get_bind fun log => ?_
    rw [Scene.superior_cons (s := { s with log := log }) h.isAttached]
    refine .get_bind fun log => ?_
    rw [Scene.stateFor_eq (s := { s with log := log }) h.tail]
    exact hr
  cases hd : l.decider.decision (some v) s.top.session.state with
  | error cause =>
    rw [hd] at hc
    refine ⟨_, .undecided hl hd, hopen ?_⟩
    simp only [Outcome.scene, List.append_nil]
    exact .bind_error hc
  | ok d =>
    rw [hd] at hc
    obtain ⟨r, state, hm, hy⟩ := mergePatch_spec (s := s') h.tail d
    cases r with
    | error cause =>
      refine ⟨_, .unmerged hl hd hm, hopen (.bind hc ?_)⟩
      simp only [Outcome.scene, List.append_nil]
      exact .bind_error hy
    | ok =>
      cases hw : d.next.isWritable with
      | true =>
        refine ⟨_, .decided hl hd hm hw, hopen (.bind hc (.bind hy ?_))⟩
        simp only [Outcome.scene, List.append_nil]
        exact .bind (modify_yields fun _ => rfl) (report_yields hw)
      | false =>
        refine ⟨_, .unnamed hl hd hm hw, hopen (.bind hc (.bind hy ?_))⟩
        simp only [Outcome.scene, List.append_nil]
        exact .bind (modify_yields fun _ => rfl) (report_fails hw)

theorem inputManager_spec (h : s.top.InUse a) (hm : s.top.part? a = some (.manager m keys))
    (hcs : cs.map Prod.fst = keys) : (inputManager a m cs v).Performs (.input a v) s := by
  obtain ⟨key, hc, hk⟩ := currentKey_yields h.wired hm hcs
  unfold inputManager
  rw [isOutermost_eq h hm]
  cases a with
  | cons k p => exact .still (.handed hm hc) (.bind (hk s) (pure_yields _))
  | nil =>
    cases hf : m.finished with
    | true => exact .still (.refusedEnded hm hf) (.bind_error (throw_yields _))
    | false =>
      cases ha : m.awaiting with
      | false =>
        exact .still (.refusedUnasked hm hf ha) (.bind_error (throw_yields _))
      | true =>
        refine ⟨_, .accepted hm hf ha hc, ?_⟩
        simp only [Outcome.scene, List.append_nil]
        exact .bind (modify_yields fun _ => rfl) (.bind (hk _) (pure_yields _))

/-! ### Moving -/

theorem targetKey_of_mem (hcs : cs.map Prod.fst = keys) (hk : key ∈ keys) :
    (targetKey m cs (.text key)).Yields s (.ok key) s := by
  have hany : cs.any (fun c => c.1 = key) := by
    rw [← hcs] at hk
    simpa using hk
  simp only [targetKey, hany]
  exact pure_yields key

theorem refuseTarget_yields (m : Manager) (target : Value) :
    (refuseTarget m target).Yields s (.error (m.stray target)) s := by
  unfold refuseTarget Manager.stray
  cases target.isKey with
  | false => exact throw_yields _
  | true =>
    cases hw : target.isWritable with
    | true => exact .bind (display_yields hw) (throw_yields _)
    | false => exact .bind_error (display_fails hw)

theorem targetKey_of_not_mem (hcs : cs.map Prod.fst = keys)
    (ht : ∀ key ∈ keys, target ≠ .text key) :
    (targetKey m cs target).Yields s (.error (m.stray target)) s := by
  cases target with
  | text key =>
    have hany : cs.any (fun c => c.1 = key) = false := by
      rw [← hcs] at ht
      rw [List.any_eq_false]
      intro c hc hk
      exact ht c.1 (List.mem_map_of_mem hc) (by simp_all)
    simp only [targetKey, hany]
    exact throw_yields _
  | _ => exact refuseTarget_yields m _

/-- Attaching succeeds where all cursors are on children. -/
theorem attachAt_yields {x : Element} {link : Link} (h : s.top.IsAimed)
    (hx : s.top.at? a = some x) : (attachAt a link).Yields s (.ok ())
      { s with top := s.top.modifyAt (fun x => (x.attach link).1) a } := by
  have hax : x.IsAimed := fun b m keys hp => h (a := b ++ a) (by
    rw [part?_append, hx, Option.bind_some, hp])
  refine .get_bind fun log => ?_
  rw [hx]
  refine .bind (modify_yields (u := { s with
    top := s.top.modifyAt (fun x => (x.attach link).1) a }) fun log => ?_) ?_
  · exact congrArg (fun top : Element => { s with top := top, log := log })
      (modifyAt_congr (f := fun _ => (x.attach link).1) (g := fun x => (x.attach link).1) hx rfl)
  · rw [attach_snd hax]
    exact pure_yields ()

theorem moveManager_spec (h : s.top.InUse a) (hm : s.top.part? a = some (.manager m keys))
    (hcs : cs.map Prod.fst = keys) : (moveManager a m cs target).Performs (.move a target) s := by
  by_cases ht : ∃ key ∈ keys, target = .text key
  · obtain ⟨key, hk, rfl⟩ := ht
    refine ⟨_, .moved hm hk, ?_⟩
    simp only [Outcome.scene, List.append_nil]
    -- The cursor is set first, and then the child there is attached.
    let s' : Scene := { s with top := s.top.setCursor a key }
    obtain ⟨p, hp⟩ := Option.isSome_iff_exists.1 (part?_cons_isSome_iff.2 ⟨m, keys, hm, hk⟩)
    obtain ⟨x, hx, -⟩ := exists_at? hp
    have hattach : (attachAt (key :: a) .holder).Yields s' (.ok ())
        { s with top := s.top.moveTo a key } :=
      attachAt_yields (h.wired.aimed.setCursor hm hk) (at?_setCursor_cons.trans hx)
    exact .bind (targetKey_of_mem hcs hk) (.bind (write_yields _ _ _)
      (.bind (modify_yields fun _ => rfl) (.bind hattach (pure_yields _))))
  · have ht' : ∀ key ∈ keys, target ≠ .text key := fun key hk h => ht ⟨key, hk, h⟩
    exact .still (.strayed hm ht') (.bind_error (targetKey_of_not_mem hcs ht'))

/-! ### Closing -/

theorem decideClose_spec (h : s.top.InUse a) :
    (decideClose a m).Yields s (m.decision s.top.session.state)
      { s with calls := s.calls ++ m.consultations s.top.session.state } := by
  unfold decideClose Manager.decision Manager.consultations
  cases m.decider with
  | none =>
    rw [List.append_nil]
    exact pure_yields _
  | some d =>
    refine .get_bind fun log => ?_
    rw [Scene.stateFor_eq (s := { s with log := log }) h]
    exact consult_spec _ _ _ _

/-- A manager below the top goes back to its root and reports, unless it would go to what cannot
    be written. -/
theorem closeNested_spec {d : Decision} {state : Mapping}
    (hm : s.top.part? (key :: p) = some (.manager m keys))
    (hd : m.decision s.top.session.state = .ok d)
    (hg : Merges s.top.session.state d.patch (.ok ()) state) :
    ∃ o, (Task.close (key :: p)).Step s.top o ∧ Yields (if d.finishes then do
      write .debug .manager s!"Manager '{m.name}' finished, deferring to its parent"
      modify fun s => s.modifyManager (key :: p) fun m => { m with cursor := some m.root }
      reportEnd (.manager p)
    else do
      let target ← orMisuse d.next.display
      write .debug .manager s!"Manager '{m.name}' routes to sibling '{target}'"
      modify fun s => s.modifyManager (key :: p) fun m => { m with cursor := some m.root }
      reportMove (.manager p) d.next)
      { s with
        top := s.top.setState state
        calls := s.calls ++ m.consultations s.top.session.state }
      o.result (o.scene s) := by
  let s' : Scene := { s with
    top := s.top.setState state
    calls := s.calls ++ m.consultations s.top.session.state }
  have hm' : s'.top.part? (key :: p) = some (.manager m keys) :=
    (part?_mapManager_of_ne (List.cons_ne_nil key p)).trans hm
  have hset : (modify fun s =>
      s.modifyManager (key :: p) fun m => { m with cursor := some m.root } : Act Unit).Yields
        s' (.ok ()) { s' with top := s'.top.setCursor (key :: p) m.root } :=
    modify_yields fun log => congrArg (fun top : Element => { s' with top := top, log := log })
      (modifyAt_rewind hm')
  cases hw : d.next.isWritable with
  | true =>
    refine ⟨_, .closed hm hd hg hw, ?_⟩
    simp only [Outcome.scene, List.append_nil]
    unfold Decision.task
    split
    · exact .bind (write_yields _ _ _) (.bind hset (pure_yields _))
    · exact .bind (display_yields hw) (.bind (write_yields _ _ _) (.bind hset (pure_yields _)))
  | false =>
    refine ⟨_, .closeUnnamed hm hd hg hw, ?_⟩
    simp only [Outcome.scene, List.append_nil]
    rw [if_neg (ne_true_of_eq_false (Decision.finishes_of_not_isWritable hw))]
    exact .bind_error (display_fails hw)

/-- The outermost manager ends the session, unless it routes elsewhere. -/
theorem closeOutermost_spec {d : Decision} {state : Mapping} (h : s.top.Wired)
    (hm : s.top.part? [] = some (.manager m keys))
    (hd : m.decision s.top.session.state = .ok d)
    (hg : Merges s.top.session.state d.patch (.ok ()) state) :
    ∃ o, (Task.close []).Step s.top o ∧ Yields (if d.finishes then do
      write .info .manager s!"Session of manager '{m.name}' ended"
      modify fun s => s.modifyManager [] fun m => { m with finished := true }
      tell [] .ended
      pure none
    else do
      let target ← orMisuse d.next.display
      throw (.configuration (.routedOutside m.name target)))
      { s with
        top := s.top.setState state
        calls := s.calls ++ m.consultations s.top.session.state }
      o.result (o.scene s) := by
  cases hf : d.finishes with
  | false =>
    cases hw : d.next.isWritable with
    | true =>
      refine ⟨_, .routedOutside hm hd hg hf hw, ?_⟩
      simp only [Outcome.scene, List.append_nil]
      exact .bind (display_yields hw) (throw_yields _)
    | false =>
      refine ⟨_, .closeUnnamed hm hd hg hw, ?_⟩
      simp only [Outcome.scene, List.append_nil]
      exact .bind_error (display_fails hw)
  | true =>
    -- The session is over before the front end is told, which may refuse it.
    let s' : Scene := { s with
      top := (s.top.setState state).setFinished
      calls := s.calls ++ m.consultations s.top.session.state }
    have hw : s'.top.Wired := h.of_sameSkeleton
      (sameSkeleton_setFinished.trans (sameSkeleton_setState state)).symm
    have hse : s'.top.session.reception .ended = s.top.session.reception .ended := by
      simp only [s']
      cases s.top <;> rfl
    cases hr : s.top.session.reception .ended with
    | error cause =>
      refine ⟨_, .endRefused hm hd hg hf hr, ?_⟩
      simp only [Outcome.scene, List.append_nil]
      exact .bind (write_yields _ _ _) (.bind (modify_yields fun _ => rfl)
        (.bind_error (tell_error (s := s') hw (hse.trans hr))))
    | ok =>
      refine ⟨_, .ended hm hd hg hf hr, ?_⟩
      exact .bind (write_yields _ _ _) (.bind (modify_yields fun _ => rfl)
        (.bind (tell_ok (s := s') hw (hse.trans hr)) (pure_yields _)))

theorem closeManager_spec (h : s.top.InUse a) (hm : s.top.part? a = some (.manager m keys)) :
    (closeManager a m).Performs (.close a) s := by
  let s' : Scene := { s with calls := s.calls ++ m.consultations s.top.session.state }
  have hc := decideClose_spec (m := m) h
  unfold closeManager
  cases hd : m.decision s.top.session.state with
  | error cause =>
    rw [hd] at hc
    refine ⟨_, .closeUndecided hm hd, ?_⟩
    simp only [Outcome.scene, List.append_nil]
    exact .bind_error hc
  | ok d =>
    rw [hd] at hc
    obtain ⟨r, state, hg, hy⟩ := mergePatch_spec (s := s') h d
    cases r with
    | error cause =>
      refine ⟨_, .closeUnmerged hm hd hg, .bind hc ?_⟩
      simp only [Outcome.scene, List.append_nil]
      exact .bind_error hy
    | ok =>
      have h' : (s.top.setState state).InUse a := h.of_sameSkeleton (sameSkeleton_setState _).symm
      -- Only the manager at the top has no superior.
      cases a with
      | cons key p =>
        obtain ⟨o, hs, ho⟩ := closeNested_spec hm hd hg
        refine ⟨o, hs, .bind hc (.bind hy (.get_bind fun log => ?_))⟩
        rw [Scene.superior_cons h'.isAttached]
        exact ho
      | nil =>
        obtain ⟨o, hs, ho⟩ := closeOutermost_spec h.wired hm hd hg
        refine ⟨o, hs, .bind hc (.bind hy (.get_bind fun log => ?_))⟩
        rw [Scene.superior_nil h'.isAttached]
        exact ho

end Act

/-! ### All tasks -/

/-- What is in use is a leaf below a manager, or a manager. -/
theorem Element.InUse.leaf_or_manager {e : Element} {a : Address} (h : e.InUse a) :
    (∃ key p l, a = key :: p ∧ e.part? a = some (.leaf l) ∧ e.at? a = some (.leaf l)) ∨
      ∃ m cs, e.part? a = some (.manager m (cs.map Prod.fst)) ∧
        e.at? a = some (.manager m cs) := by
  obtain ⟨q, hq⟩ := Option.isSome_iff_exists.1 h.isSome
  cases q with
  | manager m keys =>
    obtain ⟨cs, hx, rfl⟩ := at?_manager hq
    exact .inr ⟨m, cs, hq, hx⟩
  | leaf l =>
    obtain ⟨key, p, rfl⟩ := h.wired.exists_cons hq
    exact .inl ⟨key, p, l, rfl, hq, at?_leaf hq⟩

/-- Whatever task is at hand, the machine does one of its steps. -/
theorem Task.step_spec {s : Scene} {t : Task} (h : t.Fits s.top) : t.step.Performs t s := by
  cases t with
  | execute a =>
    rcases InUse.leaf_or_manager h with ⟨key, p, l, rfl, hl, hx⟩ | ⟨m, cs, hm, hx⟩
    · refine (Act.executeLeaf_spec h hl).of_eq fun log => ?_
      simp only [step, bind_apply, get_apply, hx]
    · refine (Act.executeManager_spec h hm rfl).of_eq fun log => ?_
      simp only [step, bind_apply, get_apply, hx]
  | input a v =>
    rcases InUse.leaf_or_manager h with ⟨key, p, l, rfl, hl, hx⟩ | ⟨m, cs, hm, hx⟩
    · refine (Act.inputLeaf_spec h hl).of_eq fun log => ?_
      simp only [step, bind_apply, get_apply, hx]
    · refine (Act.inputManager_spec h hm rfl).of_eq fun log => ?_
      simp only [step, bind_apply, get_apply, hx]
  | move a target =>
    obtain ⟨hu, -, m, keys, hm⟩ := h
    obtain ⟨cs, hx, hcs⟩ := at?_manager hm
    refine (Act.moveManager_spec hu hm hcs).of_eq fun log => ?_
    simp only [step, bind_apply, get_apply, hx]
  | close a =>
    obtain ⟨hu, -, m, keys, hm⟩ := h
    obtain ⟨cs, hx, -⟩ := at?_manager hm
    refine (Act.closeManager_spec hu hm).of_eq fun log => ?_
    simp only [step, bind_apply, get_apply, hx]

end Parley

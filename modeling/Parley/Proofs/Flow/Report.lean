import Parley.Proofs.Flow.Wiring

/-!
# Reports in a wired flow

Whatever an element on the way to the active leaf emits, reads or merges ends at
the outermost manager (`Scene.owner_eq`). So the acts that go up have simple
effects in a wired flow, which are given here, up to what they log:

* `emit_output`: what an output emitter brings is computed from the shared
  state, and added to the events if the front end takes it (`Shows`);
* `emit_expectation`: the session waits once the question has been computed,
  even if the front end refuses it then (`Asks`);
* `mergePatch_spec`: a patch changes the shared state, even where the merge fails
  in the end (`Merges`);
* `consult_spec`: a consultation is noted, whatever comes of it.
-/

namespace Parley

open Element

/-! ### Running what may fail

Acts in a scene and turns of a conversation run in the same way. -/

section Running

variable {σ α β : Type} {s : σ}

theorem get_apply : (get : ExceptT Fault (StateM σ) σ) s = (.ok s, s) := rfl

theorem modify_apply (f : σ → σ) :
    (modify f : ExceptT Fault (StateM σ) Unit) s = (.ok (), f s) := rfl

theorem bind_apply (x : ExceptT Fault (StateM σ) α) (f : α → ExceptT Fault (StateM σ) β) :
    (x >>= f) s =
      match x s with
      | (.ok y, s') => f y s'
      | (.error cause, s') => (.error cause, s') := by
  simp only [bind, ExceptT.bind, ExceptT.mk, StateT.bind, ExceptT.bindCont]
  rcases x s with ⟨y | cause, s'⟩ <;> rfl

end Running

/-- How the front end takes an event, if there is one. -/
def Manager.reception (m : Manager) (e : Event) : Except Fault Unit :=
  match m.frontEnd with
  | none => .error (.configuration (.noFrontEnd m.name))
  | some frontEnd =>
    match frontEnd.refusal e with
    | some cause => .error cause
    | none => .ok ()

/-- The events that an output emitter, if there is one, brings to a session, and
    whether it fails. -/
inductive Shows (m : Manager) : Option Emitter → Except Fault Unit → List Event → Prop
  | silent : Shows m none (.ok ()) []
  | failed {e : Emitter} {cause : Fault} : e.transform m.state e.payload = .error cause →
      Shows m (some e) (.error cause) []
  | suppressed {e : Emitter} : e.transform m.state e.payload = .ok none →
      Shows m (some e) (.ok ()) []
  | shown {e : Emitter} {p : Payload} : e.transform m.state e.payload = .ok (some p) →
      m.reception (.output p) = .ok () → Shows m (some e) (.ok ()) [.output p]
  | refused {e : Emitter} {p : Payload} {cause : Fault} :
      e.transform m.state e.payload = .ok (some p) → m.reception (.output p) = .error cause →
      Shows m (some e) (.error cause) []

/-- The events that an expectation brings to a session, whether it fails, and
    whether the session waits from then on. -/
inductive Asks (m : Manager) (e : Emitter) : Except Fault Unit → List Event → Bool → Prop
  | failed {cause : Fault} : e.transform m.state e.payload = .error cause →
      Asks m e (.error cause) [] m.awaiting
  /-- The session waits although nothing is asked. -/
  | unasked : e.transform m.state e.payload = .ok none → Asks m e (.ok ()) [] true
  | asked {p : Payload} : e.transform m.state e.payload = .ok (some p) →
      m.reception (.expectation p) = .ok () → Asks m e (.ok ()) [.expectation p] true
  | refused {p : Payload} {cause : Fault} : e.transform m.state e.payload = .ok (some p) →
      m.reception (.expectation p) = .error cause → Asks m e (.error cause) [] true

/-- The decision of a decider. -/
def Decider.decision (d : Decider) (input : Option Value) (state : Mapping) :
    Except Fault Decision :=
  (d.reply input state).bind Reply.decision?

/-- What merging a patch makes of the shared state, and whether it fails. -/
inductive Merges (state : Mapping) (patch : Value) : Except Fault Unit → Mapping → Prop
  | nothing : patch.isTruthy = false → Merges state patch (.ok ()) state
  | refused {cause : Misuse} : patch.isTruthy → state.mergeValue patch = .error cause →
      Merges state patch (.error (.misuse cause)) state
  /-- The keys of the new state cannot be listed in the log. -/
  | unlisted {merged : Mapping} {cause : Misuse} : patch.isTruthy →
      state.mergeValue patch = .ok merged → merged.keysLiteral = .error cause →
      Merges state patch (.error (.misuse cause)) merged
  | merged {merged : Mapping} {keys : String} : patch.isTruthy →
      state.mergeValue patch = .ok merged → merged.keysLiteral = .ok keys →
      Merges state patch (.ok ()) merged

namespace Act

variable {α β : Type} {s : Scene}

/-! ### Results of acts -/

/-- An act yields a result and a scene, whatever has been logged before and
    whatever it logs. -/
def Yields (x : Act α) (s : Scene) (r : Except Fault α) (s' : Scene) : Prop :=
  ∀ log, ∃ log', x { s with log := log } = (r, { s' with log := log' })

theorem pure_yields (x : α) : (pure x : Act α).Yields s (.ok x) s :=
  fun log => ⟨log, rfl⟩

theorem throw_yields (cause : Fault) : (throw cause : Act α).Yields s (.error cause) s :=
  fun log => ⟨log, rfl⟩

theorem write_yields (level : Level) (channel : Channel) (message : String) :
    (write level channel message).Yields s (.ok ()) s :=
  fun _ => ⟨_, rfl⟩

theorem orMisuse_ok {x : Except Misuse α} {y : α} (hx : x = .ok y) :
    (orMisuse x).Yields s (.ok y) s :=
  hx ▸ pure_yields y

theorem orMisuse_error {x : Except Misuse α} {cause : Misuse} (hx : x = .error cause) :
    (orMisuse x).Yields s (.error (.misuse cause)) s :=
  hx ▸ throw_yields (.misuse cause)

theorem orFault_yields (x : Except Fault α) : (orFault x).Yields s x s := by
  cases x with
  | error cause => exact throw_yields cause
  | ok y => exact pure_yields y

theorem modify_yields {f : Scene → Scene} {u : Scene}
    (hf : ∀ log, f { s with log := log } = { u with log := log }) :
    (modify f : Act Unit).Yields s (.ok ()) u :=
  fun log => ⟨log, by rw [modify_apply, hf]⟩

namespace Yields

variable {x : Act α} {f : α → Act β} {u s₂ : Scene} {y : α} {r : Except Fault β} {cause : Fault}

theorem bind (hx : x.Yields s (.ok y) u) (hf : (f y).Yields u r s₂) :
    (x >>= f).Yields s r s₂ := fun log => by
  obtain ⟨log₁, hx⟩ := hx log
  obtain ⟨log₂, hf⟩ := hf log₁
  exact ⟨log₂, by rw [bind_apply, hx]; exact hf⟩

/-- A failure ends an act. -/
theorem bind_error (hx : x.Yields s (.error cause) u) :
    (x >>= f).Yields s (.error cause) u := fun log => by
  obtain ⟨log', hx⟩ := hx log
  exact ⟨log', by rw [bind_apply, hx]⟩

theorem get_bind {f : Scene → Act β} (hf : ∀ log, (f { s with log := log }).Yields s r s₂) :
    ((get : Act Scene) >>= f).Yields s r s₂ := fun log => by
  obtain ⟨log', hf⟩ := hf log log
  exact ⟨log', by rw [bind_apply, get_apply]; exact hf⟩

end Yields

end Act

namespace Scene

variable {s : Scene} {a : Address} {key : String}

/-! ### Who takes the reports -/

theorem link_at? : (s.top.at? a).map Element.link = (s.top.part? a).map Part.link := by
  unfold part?
  cases s.top.at? a with
  | none => rfl
  | some x => cases x <;> rfl

theorem superior_cons (h : s.top.IsAttached (key :: a)) :
    s.superior (key :: a) = some (.manager a) := by
  obtain ⟨-, p, hp, hl⟩ := h
  rw [superior, link_at?, hp, Option.map_some, hl]

theorem superior_nil (h : s.top.IsAttached []) : s.superior [] = none := by
  obtain ⟨p, hp, hl⟩ := h
  rw [superior, link_at?, hp, Option.map_some, hl]

theorem ownerOf_eq (h : s.top.IsAttached a) : s.ownerOf a = .manager [] := by
  induction a with
  | nil => simp [ownerOf, superior_nil h]
  | cons key a ih => simp [ownerOf, superior_cons h, ih h.1]

/-- What has been logged does not matter to where reports end. -/
theorem ownerOf_log (log : List LogEntry) : { s with log := log }.ownerOf a = s.ownerOf a := by
  induction a with
  | nil => rfl
  | cons key a ih =>
    rw [ownerOf, ownerOf, ih]
    rfl

theorem owner_log (log : List LogEntry) (up : Superior) :
    { s with log := log }.owner up = s.owner up := by
  cases up with
  | recorder => rfl
  | manager a => exact ownerOf_log log

theorem stateFor_log (log : List LogEntry) (up : Superior) :
    { s with log := log }.stateFor up = s.stateFor up := by
  rw [stateFor, stateFor, owner_log]
  rfl

/-- Reports of what is in use end at the outermost manager. -/
theorem owner_eq (h : s.top.InUse a) : s.owner (.manager a) = .manager [] :=
  ownerOf_eq h.isAttached

theorem manager?_nil (h : s.top.Wired) : s.manager? [] = some s.top.session := by
  obtain ⟨m, keys, hm, -⟩ := h.outermost
  obtain ⟨cs, hx, -⟩ := at?_manager hm
  cases hx' : s.top with
  | leaf l => rw [hx'] at hx; cases hx
  | manager m' cs' => simp [manager?, hx', session]

/-- What is in use sees the state of the session. -/
theorem stateFor_eq (h : s.top.InUse a) : s.stateFor (.manager a) = s.top.session.state := by
  simp [stateFor, owner_eq h, manager?_nil h.wired]

end Scene

namespace Act

variable {s : Scene} {a : Address}

/-! ### The effects of reports -/

/-- The front end is told what it takes. -/
theorem tell_ok (h : s.top.Wired) {e : Event} (hr : s.top.session.reception e = .ok ()) :
    (tell [] e).Yields s (.ok ()) { s with events := s.events ++ [e] } := by
  refine .get_bind fun log => ?_
  rw [Scene.manager?_nil (s := { s with log := log }) h]
  cases hf : s.top.session.frontEnd with
  | none => simp [Manager.reception, hf] at hr
  | some frontEnd =>
    cases he : frontEnd.refusal e with
    | some cause => simp [Manager.reception, hf, he] at hr
    | none =>
      simp only [hf, he]
      exact modify_yields fun _ => rfl

theorem tell_error (h : s.top.Wired) {e : Event} {cause : Fault}
    (hr : s.top.session.reception e = .error cause) : (tell [] e).Yields s (.error cause) s := by
  refine .get_bind fun log => ?_
  rw [Scene.manager?_nil (s := { s with log := log }) h]
  cases hf : s.top.session.frontEnd with
  | none =>
    simp only [Manager.reception, hf, Except.error.injEq] at hr ⊢
    exact hr ▸ throw_yields _
  | some frontEnd =>
    cases he : frontEnd.refusal e with
    | some cause' =>
      simp only [Manager.reception, hf, he, Except.error.injEq] at hr ⊢
      exact hr ▸ throw_yields _
    | none => simp [Manager.reception, hf, he] at hr

theorem emitOutput_none (h : s.top.InUse a) :
    (emitOutput (.manager a) none).Yields s (.ok ()) s := by
  refine .get_bind fun log => ?_
  rw [Scene.owner_eq (s := { s with log := log }) h]
  exact write_yields _ _ _

theorem emitOutput_some (h : s.top.InUse a) {p : Payload} {r : Except Fault Unit} {s' : Scene}
    (ht : (tell [] (.output p)).Yields s r s') :
    (emitOutput (.manager a) (some p)).Yields s r s' := by
  refine .get_bind fun log => ?_
  rw [Scene.owner_eq (s := { s with log := log }) h]
  exact ht

theorem emitExpectation_none (h : s.top.InUse a) : (emitExpectation (.manager a) none).Yields s
    (.ok ()) { s with top := s.top.setAwaiting true } := by
  refine .get_bind fun log => ?_
  rw [Scene.owner_eq (s := { s with log := log }) h]
  exact .bind (modify_yields fun _ => rfl) (write_yields _ _ _)

theorem emitExpectation_some (h : s.top.InUse a) {p : Payload} {r : Except Fault Unit} {s' : Scene}
    (ht : (tell [] (.expectation p)).Yields { s with top := s.top.setAwaiting true } r s') :
    (emitExpectation (.manager a) (some p)).Yields s r s' := by
  refine .get_bind fun log => ?_
  rw [Scene.owner_eq (s := { s with log := log }) h]
  exact .bind (modify_yields fun _ => rfl) ht

/-- An emitter whose transform fails emits nothing. -/
theorem emit_error (h : s.top.InUse a) {kind : EmitterKind} {e : Emitter} {cause : Fault}
    (ht : e.transform s.top.session.state e.payload = .error cause) :
    (emit (.manager a) kind e).Yields s (.error cause) s := by
  refine .get_bind fun log => ?_
  rw [Scene.stateFor_eq (s := { s with log := log }) h, ht]
  exact .bind_error (throw_yields cause)

/-- An emitter takes up what its transform computes from the shared state. -/
theorem emit_ok (h : s.top.InUse a) {kind : EmitterKind} {e : Emitter} {payload : Option Payload}
    (ht : e.transform s.top.session.state e.payload = .ok payload) {r : Except Fault Unit}
    {s' : Scene}
    (he : Yields (match kind with
      | .output => emitOutput (.manager a) payload
      | .expectation => emitExpectation (.manager a) payload) s r s') :
    (emit (.manager a) kind e).Yields s r s' := by
  refine .get_bind fun log => ?_
  rw [Scene.stateFor_eq (s := { s with log := log }) h, ht]
  refine .bind (pure_yields payload) ?_
  -- An empty result is noted in the log first.
  cases payload with
  | none => exact .bind (write_yields _ _ _) he
  | some p => exact he

/-- An output adds what the front end takes to the events. -/
theorem emit_output (h : s.top.InUse a) (e : Emitter) :
    ∃ r events, Shows s.top.session (some e) r events ∧
      (emit (.manager a) .output e).Yields s r { s with events := s.events ++ events } := by
  cases ht : e.transform s.top.session.state e.payload with
  | error cause =>
    refine ⟨_, [], .failed ht, ?_⟩
    rw [List.append_nil]
    exact emit_error h ht
  | ok payload =>
    cases payload with
    | none =>
      refine ⟨_, [], .suppressed ht, ?_⟩
      rw [List.append_nil]
      exact emit_ok h ht (emitOutput_none h)
    | some p =>
      cases hr : s.top.session.reception (.output p) with
      | ok => exact ⟨_, _, .shown ht hr, emit_ok h ht (emitOutput_some h (tell_ok h.wired hr))⟩
      | error cause =>
        refine ⟨_, [], .refused ht hr, ?_⟩
        rw [List.append_nil]
        exact emit_ok h ht (emitOutput_some h (tell_error h.wired hr))

/-- A question makes the session wait, even if the front end then refuses it. -/
theorem emit_expectation (h : s.top.InUse a) (e : Emitter) :
    ∃ r events awaiting, Asks s.top.session e r events awaiting ∧
      (emit (.manager a) .expectation e).Yields s r
        { s with top := s.top.setAwaiting awaiting, events := s.events ++ events } := by
  cases ht : e.transform s.top.session.state e.payload with
  | error cause =>
    refine ⟨_, [], _, .failed ht, ?_⟩
    rw [List.append_nil, setAwaiting_self]
    exact emit_error h ht
  | ok payload =>
    cases payload with
    | none =>
      refine ⟨_, [], true, .unasked ht, ?_⟩
      rw [List.append_nil]
      exact emit_ok h ht (emitExpectation_none h)
    | some p =>
      -- The flag is set before the front end is told, so the flow that tells it
      -- is one with the flag.
      have hw : (s.top.setAwaiting true).Wired :=
        h.wired.of_sameSkeleton (sameSkeleton_setAwaiting true).symm
      have hs := h.wired.session_setAwaiting true
      cases hr : s.top.session.reception (.expectation p) with
      | ok =>
        refine ⟨_, _, true, .asked ht hr, emit_ok h ht (emitExpectation_some h ?_)⟩
        exact tell_ok (s := { s with top := s.top.setAwaiting true }) hw (by rw [hs]; exact hr)
      | error cause =>
        refine ⟨_, [], true, .refused ht hr, ?_⟩
        rw [List.append_nil]
        refine emit_ok h ht (emitExpectation_some h ?_)
        exact tell_error (s := { s with top := s.top.setAwaiting true }) hw (by rw [hs]; exact hr)

section Merging

variable {up : Superior} {o : Address} {patch : Value} {merged : Mapping} {keys : String}
  {cause : Misuse}

/-- What cannot be merged changes nothing. -/
theorem merge_refused (ho : s.owner up = .manager o)
    (hm : (s.stateFor up).mergeValue patch = .error cause) :
    (merge up patch).Yields s (.error (.misuse cause)) s := by
  refine .get_bind fun log => ?_
  rw [Scene.owner_log, ho]
  refine .get_bind fun log => ?_
  rw [Scene.stateFor_log]
  exact .bind_error (orMisuse_error hm)

/-- The owner has taken over the new state before its keys are listed in the log. -/
theorem merge_takes_over (ho : s.owner up = .manager o)
    (hm : (s.stateFor up).mergeValue patch = .ok merged) {r : Except Fault Unit} {s' : Scene}
    (hr : Yields (do
      let keys ← orMisuse merged.keysLiteral
      write .debug .manager ("State keys after merge: " ++ keys))
      (s.modifyManager o fun m => { m with state := merged }) r s') :
    (merge up patch).Yields s r s' := by
  refine .get_bind fun log => ?_
  rw [Scene.owner_log, ho]
  refine .get_bind fun log => ?_
  rw [Scene.stateFor_log]
  exact .bind (orMisuse_ok hm) (.bind (modify_yields fun _ => rfl) hr)

theorem merge_unlisted (ho : s.owner up = .manager o)
    (hm : (s.stateFor up).mergeValue patch = .ok merged) (hk : merged.keysLiteral = .error cause) :
    (merge up patch).Yields s (.error (.misuse cause))
      (s.modifyManager o fun m => { m with state := merged }) :=
  merge_takes_over ho hm (.bind_error (orMisuse_error hk))

theorem merge_merged (ho : s.owner up = .manager o)
    (hm : (s.stateFor up).mergeValue patch = .ok merged) (hk : merged.keysLiteral = .ok keys) :
    (merge up patch).Yields s (.ok ()) (s.modifyManager o fun m => { m with state := merged }) :=
  merge_takes_over ho hm (.bind (orMisuse_ok hk) (write_yields _ _ _))

end Merging

/-- A merge leaves the state that `Merges` says. -/
theorem mergePatch_spec (h : s.top.InUse a) (d : Decision) :
    ∃ r state, Merges s.top.session.state d.patch r state ∧
      (mergePatch (.manager a) d).Yields s r { s with top := s.top.setState state } := by
  unfold mergePatch
  by_cases ht : d.patch.isTruthy
  · rw [if_pos ht]
    have ho := Scene.owner_eq h
    have hs := Scene.stateFor_eq h
    cases hm : s.top.session.state.mergeValue d.patch with
    | error cause =>
      refine ⟨_, _, .refused ht hm, ?_⟩
      rw [setState_self]
      exact merge_refused ho (hs.symm ▸ hm)
    | ok merged =>
      cases hk : merged.keysLiteral with
      | error cause => exact ⟨_, _, .unlisted ht hm hk, merge_unlisted ho (hs.symm ▸ hm) hk⟩
      | ok keys => exact ⟨_, _, .merged ht hm hk, merge_merged ho (hs.symm ▸ hm) hk⟩
  · rw [if_neg ht]
    refine ⟨_, _, .nothing (by simpa using ht), ?_⟩
    rw [setState_self]
    exact pure_yields ()

/-- A consultation is noted, whatever comes of it. -/
theorem consult_spec (name : String) (d : Decider) (input : Option Value) (state : Mapping) :
    (consult name d input state).Yields s (d.decision input state)
      { s with calls := s.calls ++ [⟨name, d.label, input, state⟩] } := by
  refine .bind (u := { s with calls := s.calls ++ [⟨name, d.label, input, state⟩] })
    (fun _ => ⟨_, rfl⟩) ?_
  cases hr : d.reply input state with
  | error cause =>
    rw [Decider.decision, hr]
    exact .bind_error (orFault_yields _)
  | ok reply =>
    rw [Decider.decision, hr]
    exact .bind (orFault_yields _) (orFault_yields _)

end Act

end Parley

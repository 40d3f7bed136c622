import Parley.Proofs.Flow.Building
import Parley.Proofs.Flow.Determined
import Parley.Proofs.Flow.Ownership

/-!
# Framed flows

A flow is *framed* by a manager that has its outermost manager as the only child and
no decider (`Element.framed`). The frame takes the session over, and what has been
outermost reports to it.

To the tasks this makes little difference. A step of the flow is one of the framed
flow, a level further down (`Task.Step.framed`); only where the flow closes the frame
closes after it (`Task.Step.framed_close_top`). So a run of the flow is one of the framed
flow, with one more task if the session ends (`Task.Runs.framed`), and a turn is one
with two or three more (`Task.Begins.framed`).
-/

namespace Parley

namespace Element

variable {e x : Element} {f : Element → Element} {g : Manager → Manager} {a : Address}
  {name key k : String} {m : Manager} {keys : List String} {cs : List (String × Element)} {l : Leaf}

/-- The element as the only child of a frame has it: reporting to its holder, and
    without a session. -/
def held (e : Element) : Element :=
  e.mapManager fun m => { m with
    link := .holder, state := [], awaiting := false, finished := false, frontEnd := none }

/-- The element in a frame, which has its session. -/
def framed (name key : String) (e : Element) : Element :=
  .manager { e.session with
    name := name, root := key, decider := none, link := .free, cursor := some key } [(key, e.held)]

/-! ### Changes below a frame -/

theorem modifyAt_concat : (manager m cs).modifyAt f (a ++ [key]) =
    manager m (update (fun x => x.modifyAt f a) key cs) := by
  induction a generalizing f with
  | nil => rfl
  | cons k a ih => exact ih

/-- A change below the top leaves a change of the outermost manager as it is. -/
theorem mapManager_modifyAt_cons :
    (e.modifyAt f (k :: a)).mapManager g = (e.mapManager g).modifyAt f (k :: a) := by
  induction a generalizing f k with
  | nil => cases e <;> rfl
  | cons k' a ih => exact ih

theorem framed_modifyAt_cons : (e.modifyAt f (k :: a)).framed name key =
    (e.framed name key).modifyAt f (k :: a ++ [key]) := by
  rw [framed, framed, modifyAt_concat, session_modifyAt_cons, held, held,
    mapManager_modifyAt_cons]
  simp [update]

theorem framed_setStatus (status : Status) : (e.setStatus a status).framed name key =
    (e.framed name key).setStatus (a ++ [key]) status := by
  cases a with
  | cons k a => exact framed_modifyAt_cons
  | nil =>
    rw [setStatus, List.nil_append]
    cases e <;> simp [framed, modifyAt, updateChild, update, setStatus, held, mapLeaf, mapManager,
      session]

theorem framed_setCursor : (e.setCursor a k).framed name key =
    (e.framed name key).setCursor (a ++ [key]) k := by
  cases a with
  | cons k a => exact framed_modifyAt_cons
  | nil =>
    rw [setCursor, List.nil_append]
    cases e <;> simp [framed, modifyAt, updateChild, update, setCursor, held, mapManager, session]

theorem framed_moveTo : (e.moveTo a k).framed name key =
    (e.framed name key).moveTo (a ++ [key]) k := by
  rw [moveTo, framed_modifyAt_cons, framed_setCursor]
  rfl

/-! The session is that of the frame. -/

theorem framed_setState (h : e.Wired) (state : Mapping) :
    (e.setState state).framed name key = (e.framed name key).setState state := by
  obtain ⟨m, keys, hm, -⟩ := h.outermost
  cases e with
  | leaf l => cases hm
  | manager m cs => rfl

theorem framed_setAwaiting (h : e.Wired) (awaiting : Bool) :
    (e.setAwaiting awaiting).framed name key = (e.framed name key).setAwaiting awaiting := by
  obtain ⟨m, keys, hm, -⟩ := h.outermost
  cases e with
  | leaf l => cases hm
  | manager m cs => rfl

theorem framed_setFinished (h : e.Wired) :
    e.setFinished.framed name key = (e.framed name key).setFinished := by
  obtain ⟨m, keys, hm, -⟩ := h.outermost
  cases e with
  | leaf l => cases hm
  | manager m cs => rfl

/-! ### What a frame holds -/

theorem part?_framed_nil : (e.framed name key).part? [] =
    some (.manager (e.framed name key).session [key]) := rfl

theorem part?_framed_concat : (e.framed name key).part? (a ++ [key]) = e.held.part? a := by
  rw [framed, part?_concat]
  simp [lookup]

/-- A leaf is the same in a frame. -/
theorem part?_framed_leaf (name key : String) (hl : e.part? a = some (.leaf l)) :
    (e.framed name key).part? (a ++ [key]) = some (.leaf l) := by
  rw [part?_framed_concat, held, part?_mapManager_top]
  split
  · subst a
    rw [hl]
    rfl
  · exact hl

/-- A manager has the same definition and the same cursor. -/
theorem part?_framed_manager (name key : String) (hm : e.part? a = some (.manager m keys)) :
    ∃ m', (e.framed name key).part? (a ++ [key]) = some (.manager m' keys) ∧ m'.name = m.name ∧
      m'.root = m.root ∧ m'.decider = m.decider ∧ m'.cursor = m.cursor := by
  rw [part?_framed_concat, held, part?_mapManager_top]
  split
  · subst a
    rw [hm]
    exact ⟨_, rfl, rfl, rfl, rfl, rfl⟩
  · exact ⟨m, hm, rfl, rfl, rfl, rfl⟩

/-- The leaves below a manager with an only child are those of the child. -/
theorem leaf_only_child {b : Address} : (manager m [(key, x)]).part? b = some (.leaf l) ↔
    ∃ a, b = a ++ [key] ∧ x.part? a = some (.leaf l) := by
  have hx : lookup key [(key, x)] = some x := by simp [lookup]
  constructor
  · intro hl
    rcases part?_manager_cases hl with ⟨-, hp⟩ | ⟨k, y, a, rfl, hy, hp⟩
    · cases hp
    · by_cases hk : key = k
      · subst k
        rw [hx] at hy
        cases hy
        exact ⟨a, rfl, hp⟩
      · simp [lookup, hk] at hy
  · rintro ⟨a, rfl, hl⟩
    rw [part?_concat, hx]
    exact hl

/-- They are also those of the child with another session. -/
theorem leaf_frame {b : Address} :
    (manager m [(key, e.mapManager g)]).part? b = some (.leaf l) ↔
      ∃ a, b = a ++ [key] ∧ e.part? a = some (.leaf l) :=
  leaf_only_child.trans <| exists_congr fun _ => and_congr_right' (leaf_mapManager (a := []))

theorem leaf_framed {b : Address} : (e.framed name key).part? b = some (.leaf l) ↔
    ∃ a, b = a ++ [key] ∧ e.part? a = some (.leaf l) :=
  leaf_frame

/-- The active path goes through the only child. -/
theorem activePath_only_child (hc : m.cursor = some key) :
    (manager m [(key, x)]).activePath = key :: x.activePath := by
  simp [activePath, activeBelow, hc]

theorem activePath_mapManager (hg : ∀ m, (g m).cursor = m.cursor) :
    (e.mapManager g).activePath = e.activePath := by
  cases e with
  | leaf l => rfl
  | manager m cs => simp [mapManager, activePath, hg]

theorem activePath_framed : (e.framed name key).activePath = key :: e.activePath := by
  rw [framed, activePath_only_child rfl]
  exact congrArg _ (activePath_mapManager fun _ => rfl)

/-- To attach a frame around a manager with nothing of a session is to frame what the
    manager is when it has been attached by itself. -/
theorem attach_frame (hc : m.cursor = some k) (hbare : (Part.manager m keys).IsBare)
    (frontEnd : Option FrontEnd) (state : Mapping) :
    ((manager { Manager.idle name key none with frontEnd := frontEnd, state := state }
        [(key, manager m cs)]).attach .free).1 =
      ((manager { m with frontEnd := frontEnd, state := state } cs).attach .free).1.framed
        name key := by
  obtain ⟨hs, ha, hf, he⟩ := hbare
  obtain ⟨_, _, _, _, _, _, _, _, _⟩ := m
  cases hc
  cases hs
  cases ha
  cases hf
  cases he
  simp [attach, attachChild, framed, held, mapManager, session, Manager.idle]

end Element

open Element

/-! ### Reports and decisions -/

section

variable {m m' : Manager}

theorem Shows.congr {x : Option Emitter} {r : Except Fault Unit} {shown : List Event}
    (h : Shows m x r shown) (hs : m'.state = m.state)
    (hr : ∀ event, m'.reception event = m.reception event) : Shows m' x r shown := by
  cases h with
  | silent => exact .silent
  | failed ht => exact .failed (hs ▸ ht)
  | suppressed ht => exact .suppressed (hs ▸ ht)
  | shown ht he => exact .shown (hs ▸ ht) ((hr _).trans he)
  | refused ht he => exact .refused (hs ▸ ht) ((hr _).trans he)

theorem Asks.congr {x : Emitter} {r : Except Fault Unit} {asked : List Event} {awaiting : Bool}
    (h : Asks m x r asked awaiting) (hs : m'.state = m.state) (ha : m'.awaiting = m.awaiting)
    (hr : ∀ event, m'.reception event = m.reception event) : Asks m' x r asked awaiting := by
  cases h with
  | failed ht => exact ha ▸ .failed (hs ▸ ht)
  | unasked ht => exact .unasked (hs ▸ ht)
  | asked ht he => exact .asked (hs ▸ ht) ((hr _).trans he)
  | refused ht he => exact .refused (hs ▸ ht) ((hr _).trans he)

end

/-- The manager never decides to go elsewhere. -/
def Manager.Remains (m : Manager) : Prop :=
  ∀ state d, m.decision state = .ok d → d.finishes = true

/-- Whether it does is a matter of design. -/
theorem Element.SameDesign.remains {e e' : Element} (h : SameDesign e' e)
    (hm : e.session.Remains) : e'.session.Remains := by
  have hd : e'.session.decider = e.session.decider := by
    have htop := h []
    cases e <;> cases e' <;> simp_all [part?_nil, part, Part.design, session, Manager.idle]
  intro state d hdec
  rw [Manager.decision_congr hd] at hdec
  exact hm state d hdec

/-! ### Tasks -/

variable {e : Element} {t t' : Task} {o : Outcome} {n : Nat} {c : Course} {name key : String}
  {a p : Address} {v target : Value}

/-- The same task a level further down. -/
def Task.below (key : String) : Task → Task
  | .execute a => .execute (a ++ [key])
  | .input a v => .input (a ++ [key]) v
  | .move a target => .move (a ++ [key]) target
  | .close a => .close (a ++ [key])

theorem Decision.task_below (d : Decision) : (d.task p).below key = d.task (p ++ [key]) := by
  unfold task
  split <;> rfl

/-- What the step comes to in a frame. -/
def Outcome.framed (name key : String) (o : Outcome) : Outcome :=
  ⟨o.result.map (Option.map (Task.below key)), o.top.framed name key, o.events, o.calls⟩

namespace Task

/-- A front end that takes everything does so for the frame. -/
theorem reception_framed (hr : e.session.IsReceptive) (event : Event) :
    (e.framed name key).session.reception event = e.session.reception event := by
  have hframe : (e.framed name key).session.IsReceptive := hr
  rw [hframe.reception, hr.reception]

namespace Step

/-! A leaf is the same in a frame, and a manager decides and goes where it did. -/

theorem framed_execute (name key : String) (hs : (Task.execute a).Step e o)
    (h : InFlight e (.execute a)) (hr : e.session.IsReceptive) :
    (Task.execute (a ++ [key])).Step (e.framed name key) (o.framed name key) := by
  have hw := h.fits.wired
  have hshows {x : Option Emitter} {r : Except Fault Unit} {shown : List Event}
      (hx : Shows e.session x r shown) : Shows (e.framed name key).session x r shown :=
    hx.congr rfl (reception_framed hr)
  cases hs with
  | unshown hl hx =>
    have hstep := Step.unshown (part?_framed_leaf name key hl) (hshows hx)
    rw [← framed_setStatus] at hstep
    exact hstep
  | passed hl hx hq =>
    have hstep := Step.passed (part?_framed_leaf name key hl) (hshows hx) hq
    rw [← framed_setStatus] at hstep
    exact hstep
  | @asked _ l shown question r asked awaiting hl hx hq ha =>
    have hstep := Step.asked (part?_framed_leaf name key hl) (hshows hx) hq
      (ha.congr rfl rfl (reception_framed hr))
    rw [← framed_setStatus,
      ← framed_setAwaiting (hw.of_sameSkeleton (sameSkeleton_setStatus _).symm)] at hstep
    rw [Outcome.framed]
    cases r with
    | error cause => exact hstep
    | ok => exact hstep
  | entered hp hc =>
    obtain ⟨m', hp', -, -, -, hc'⟩ := part?_framed_manager name key hp
    exact .entered hp' (hc'.trans hc) fun hnil => absurd hnil (by simp)
  | overrun hp hf =>
    rw [← session_eq hp, h.unsettled.2] at hf
    cases hf

theorem framed_input (name key : String) (hs : (Task.input a v).Step e o)
    (h : InFlight e (.input a v)) :
    (Task.input (a ++ [key]) v).Step (e.framed name key) (o.framed name key) := by
  have hw := h.fits.wired
  cases hs with
  | undecided hl hd => exact .undecided (part?_framed_leaf name key hl) hd
  | unmerged hl hd hg =>
    have hstep := Step.unmerged (part?_framed_leaf name key hl) hd hg
    rw [← framed_setState hw] at hstep
    exact hstep
  | @unnamed p k l _ d state hl hd hg hn =>
    have hstep : (Task.input (k :: p ++ [key]) v).Step (e.framed name key)
        ⟨_, ((e.framed name key).setState state).setStatus (k :: p ++ [key]) .resolved, _, _⟩ :=
      .unnamed (part?_framed_leaf name key hl) hd hg hn
    rw [← framed_setState hw, ← framed_setStatus] at hstep
    exact hstep
  | @decided p k l _ d state hl hd hg hn =>
    have hstep : (Task.input (k :: p ++ [key]) v).Step (e.framed name key)
        ⟨_, ((e.framed name key).setState state).setStatus (k :: p ++ [key]) .resolved, _, _⟩ :=
      .decided (part?_framed_leaf name key hl) hd hg hn
    rw [← framed_setState hw, ← framed_setStatus] at hstep
    simp only [Outcome.framed, Except.map, Option.map, Decision.task_below]
    exact hstep
  | refusedEnded | refusedUnasked | accepted => exact absurd rfl (h.below _)
  | handed hp hc =>
    obtain ⟨m', hp', -, -, -, hc'⟩ := part?_framed_manager name key hp
    exact .handed hp' (hc'.trans hc)

theorem framed_move (name key : String) (hs : (Task.move a target).Step e o) :
    (Task.move (a ++ [key]) target).Step (e.framed name key) (o.framed name key) := by
  cases hs with
  | strayed hp ht =>
    obtain ⟨m', hp', hn, -⟩ := part?_framed_manager name key hp
    simp only [Outcome.framed, Except.map]
    rw [← Manager.stray_congr hn]
    exact .strayed hp' ht
  | moved hp hk =>
    obtain ⟨m', hp', -⟩ := part?_framed_manager name key hp
    have hstep := Step.moved hp' hk
    rw [← framed_moveTo] at hstep
    exact hstep

theorem framed_close (name key : String) (hs : (Task.close a).Step e o)
    (h : InFlight e (.close a)) (hr : e.session.IsReceptive) (hm : e.session.Remains) :
    (Task.close (a ++ [key])).Step (e.framed name key) (o.framed name key) ∨
      a = [] ∧ o.result = .ok none := by
  have hw := h.fits.wired
  cases hs with
  | @closeUndecided _ m keys cause hp hd =>
    obtain ⟨m', hp', hn, -, hdec, -⟩ := part?_framed_manager name key hp
    refine .inl ?_
    simp only [Outcome.framed, Except.map]
    rw [← m.consultations_congr hn hdec]
    exact .closeUndecided hp' ((m.decision_congr hdec _).trans hd)
  | @closeUnmerged _ m keys d cause state hp hd hg =>
    obtain ⟨m', hp', hn, -, hdec, -⟩ := part?_framed_manager name key hp
    refine .inl ?_
    simp only [Outcome.framed, Except.map, framed_setState hw]
    rw [← m.consultations_congr hn hdec]
    exact .closeUnmerged hp' ((m.decision_congr hdec _).trans hd) hg
  | @closeUnnamed _ m keys d state hp hd hg hw' =>
    obtain ⟨m', hp', hn, -, hdec, -⟩ := part?_framed_manager name key hp
    refine .inl ?_
    simp only [Outcome.framed, Except.map, framed_setState hw]
    rw [← m.consultations_congr hn hdec]
    exact .closeUnnamed hp' ((m.decision_congr hdec _).trans hd) hg hw'
  | @closed p k m keys d state hp hd hg hw' =>
    obtain ⟨m', hp', hn, hroot, hdec, -⟩ := part?_framed_manager name key hp
    refine .inl ?_
    simp only [Outcome.framed, Except.map, Option.map, Decision.task_below, framed_setCursor,
      framed_setState hw]
    rw [← m.consultations_congr hn hdec, ← hroot]
    exact .closed hp' ((m.decision_congr hdec _).trans hd) hg hw'
  | ended => exact .inr ⟨rfl, rfl⟩
  | endRefused _ _ _ _ hrefused =>
    rw [hr.reception] at hrefused
    cases hrefused
  | routedOutside hp hd _ hf =>
    rw [← session_eq hp] at hd
    rw [hm _ _ hd] at hf
    cases hf

/-- A step in the course of a turn is one of the framed flow, unless it ends the
    session. -/
theorem framed (name key : String) (hs : t.Step e o) (h : InFlight e t)
    (hr : e.session.IsReceptive) (hm : e.session.Remains) :
    (t.below key).Step (e.framed name key) (o.framed name key) ∨
      t = .close [] ∧ o.result = .ok none := by
  cases t with
  | execute a => exact .inl (hs.framed_execute name key h hr)
  | input a v => exact .inl (hs.framed_input name key h)
  | move a target => exact .inl (hs.framed_move name key)
  | close a => exact (hs.framed_close name key h hr hm).imp_right fun ⟨ha, ho⟩ => ⟨ha ▸ rfl, ho⟩

/-- Where the flow ends its session, the frame closes after it and ends the session. -/
theorem framed_close_top (name key : String) (hs : (Task.close []).Step e o) (hw : e.Wired)
    (hrec : e.session.IsReceptive) (ho : o.result = .ok none) : ∃ e' root,
    (Task.close [key]).Step (e.framed name key) ⟨.ok (some (.close [])), e', [], o.calls⟩ ∧
      (Task.close []).Step e'
        ⟨.ok none, (o.top.framed name key).setCursor [key] root, o.events, []⟩ := by
  cases hs with
  | @ended m keys d state hp hd hg hf =>
    obtain ⟨m', hp', hn, -, hdec, -⟩ := part?_framed_manager name key hp
    let e' := ((e.framed name key).setState state).setCursor [key] m'.root
    have hclosed := Step.closed hp' ((m.decision_congr hdec _).trans hd) hg
      (Decision.isWritable_of_finishes hf)
    rw [m.consultations_congr hn hdec] at hclosed
    -- The frame has no decider, so it finishes and merges nothing.
    have htop : e'.part? [] = some (.manager { (e.framed name key).session with state := state }
        [key]) := by
      rw [part?_setCursor, if_neg (List.cons_ne_nil key []).symm]
      rfl
    have hreception : e'.session.IsReceptive := by
      rw [session_eq htop]
      exact hrec
    have hended : (Task.close []).Step e' _ :=
      .ended htop rfl (.nothing rfl) rfl (hreception.reception _)
    have hsame : (e'.setState e'.session.state).setFinished =
        (((e.setState state).setFinished).framed name key).setCursor [key] m'.root := by
      rw [setState_self, framed_setFinished (hw.of_sameSkeleton (sameSkeleton_setState state).symm),
        framed_setState hw]
      exact mapManager_modifyAt_cons
    rw [hsame] at hended
    refine ⟨e', m'.root, ?_, hended⟩
    rw [Decision.task_of_finishes hf] at hclosed
    exact hclosed
  | _ => cases ho

end Step

end Task

/-- The second flow is the first one in a frame, but for the cursor of the manager in
    the frame, which has gone back when the session is over. -/
def Element.IsFramed (name key : String) (e e' : Element) : Prop :=
  e' = e.framed name key ∨ e.IsOver ∧ ∃ root, e' = (e.framed name key).setCursor [key] root

namespace Element.IsFramed

variable {e' : Element}

/-- The session is the same. -/
theorem session (h : e.IsFramed name key e') : e'.session.state = e.session.state ∧
    e'.session.awaiting = e.session.awaiting ∧ e'.session.finished = e.session.finished := by
  rcases h with rfl | ⟨-, root, rfl⟩
  · exact ⟨rfl, rfl, rfl⟩
  · obtain ⟨cursor, hc⟩ := session_setCursor (e.framed name key) [key] root
    rw [hc]
    exact ⟨rfl, rfl, rfl⟩

/-- The leaves are the same, one level further down. -/
theorem leaf_iff (h : e.IsFramed name key e') {b : Address} {l : Leaf} :
    e'.part? b = some (.leaf l) ↔ ∃ a, b = a ++ [key] ∧ e.part? a = some (.leaf l) := by
  rcases h with rfl | ⟨-, root, rfl⟩
  · exact leaf_framed
  · exact leaf_mapManager.trans leaf_framed

theorem of_unfinished (h : e.IsFramed name key e') (hf : e.session.finished = false) :
    e' = e.framed name key := by
  rcases h with h | ⟨hover, -⟩
  · exact h
  · rw [hover.finished] at hf
    cases hf

end Element.IsFramed

/-- What the course of a run is in a frame. -/
structure Course.IsFramed (name key : String) (c c' : Course) : Prop where
  result : c'.result = c.result
  events : c'.events = c.events
  calls : c'.calls = c.calls
  top : c.top.IsFramed name key c'.top

namespace Task

/-- A run in the course of a turn is one of the framed flow, which takes one more task
    if the session ends. -/
theorem Runs.framed (name key : String) (hr : t.Runs n e c) (h : InFlight e t)
    (hrec : e.session.IsReceptive) (hm : e.session.Remains) : ∃ n' c',
      (t.below key).Runs n' (e.framed name key) c' ∧
      n ≤ n' ∧ n' ≤ n + 1 ∧ c.IsFramed name key c' := by
  -- Each step of the run is one in the frame, except for a last one that ends the session.
  induction hr with
  | endless => exact ⟨0, _, .endless, Nat.le_refl 0, Nat.zero_le 1, rfl, rfl, rfl, .inl rfl⟩
  | @failed n e t o cause hs ho =>
    rcases hs.framed name key h hrec hm with hstep | ⟨-, hnone⟩
    · have ho' : (o.framed name key).result = .error cause := by rw [Outcome.framed, ho]; rfl
      exact ⟨n + 1, _, .failed hstep ho', Nat.le_refl _, Nat.le_succ _, rfl, rfl, rfl, .inl rfl⟩
    · rw [ho] at hnone
      cases hnone
  | @settled n e t o hs ho =>
    rcases hs.framed name key h hrec hm with hstep | ⟨rfl, -⟩
    · have ho' : (o.framed name key).result = .ok none := by rw [Outcome.framed, ho]; rfl
      exact ⟨n + 1, _, .settled hstep ho', Nat.le_refl _, Nat.le_succ _, rfl, rfl, rfl, .inl rfl⟩
    · obtain ⟨e', root, hclosed, hended⟩ :=
        hs.framed_close_top name key h.fits.wired hrec ho
      have hover : o.top.IsOver := by
        rcases hs.settled h ho with ⟨a, ha, -⟩ | hover
        · cases ha
        · exact hover
      refine ⟨n + 2, _, .next hclosed rfl (.settled hended rfl), Nat.le_succ _, Nat.le_refl _, rfl,
        rfl, ?_, .inr ⟨hover, root, rfl⟩⟩
      simp
  | @next n e t t' o c hs ho _ ih =>
    rcases hs.framed name key h hrec hm with hstep | ⟨-, hnone⟩
    · have ho' : (o.framed name key).result = .ok (some (t'.below key)) := by
        rw [Outcome.framed, ho]
        rfl
      obtain ⟨n', c', hr', hle, hle', hc⟩ := ih (hs.inFlight h ho) (hs.isReceptive hrec)
        (hs.sameDesign.remains hm)
      refine ⟨n' + 1, _, .next hstep ho' hr', Nat.succ_le_succ hle, Nat.succ_le_succ hle', ?_⟩
      exact ⟨hc.result, congrArg (o.events ++ ·) hc.events, congrArg (o.calls ++ ·) hc.calls,
        hc.top⟩
    · rw [ho] at hnone
      cases hnone

/-- A turn is one of the framed flow, which takes two more tasks at most. -/
theorem Begins.framed (name key : String) (hb : t.Begins e) (hr : t.Runs (n + 1) e c)
    (hrec : e.session.IsReceptive) (hm : e.session.Remains) : ∃ n' c',
      t.Runs n' (e.framed name key) c' ∧
      n + 1 ≤ n' ∧ n' ≤ n + 3 ∧ c.IsFramed name key c' := by
  cases hb with
  | execute h =>
    obtain ⟨n', c', hr', hle, hle', hc⟩ := hr.framed name key h hrec hm
    have hentered : (Task.execute []).Step (e.framed name key) _ :=
      .entered part?_framed_nil rfl fun _ => h.unsettled.2
    exact ⟨n' + 1, _, .next hentered rfl hr', by omega, by omega, hc.result, hc.events, hc.calls,
      hc.top⟩
  | @input a v h =>
    obtain ⟨k, c₁, hr₁, hfl, rfl⟩ := hr.of_waitsAt h
    have hsame : SameDesign (e.setAwaiting false) e := (sameSkeleton_setAwaiting false).sameDesign
    obtain ⟨n', c', hr', hle, hle', hc⟩ := hr₁.framed name key hfl
      (hrec.setAwaiting false) (hsame.remains hm)
    -- The frame takes the input and hands it to its child, which hands it on.
    have haccepted : (Task.input [] v).Step (e.framed name key) _ :=
      .accepted part?_framed_nil h.finished h.awaiting rfl
    rw [← framed_setAwaiting h.wired] at haccepted
    obtain ⟨m, keys, hp, hk, -⟩ := InUse.exists_holder hfl.fits
    obtain ⟨m', hp', -, -, -, hk'⟩ := part?_framed_manager name key hp
    have hhanded : (Task.input [key] v).Step ((e.setAwaiting false).framed name key) _ :=
      .handed hp' (hk'.trans hk)
    exact ⟨n' + 2, _, .next haccepted rfl (.next hhanded rfl hr'), by omega, by omega, hc.result,
      hc.events, hc.calls, hc.top⟩

end Task

end Parley

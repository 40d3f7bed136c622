import Parley.Proofs.Flow.ActivePath

/-!
# Changes of a flow

The changes that tasks make to a flow, as functions on the tree: the status of a
leaf, a cursor, the three fields of the session, and a move, which sets a cursor
and attaches the child there.

Most of them leave the *skeleton* alone, which is all but the status of the
leaves and the session of the managers (`SameSkeleton`): names, deciders, links
and cursors. A flow with the same skeleton has the same active addresses
(`SameSkeleton.isActive`). None of them touches the *design*, which is what the
flow has been made from (`SameDesign`).
-/

namespace Parley

namespace Part

/-- The part without its status or its session. -/
def skeleton : Part → Part
  | .leaf l => .leaf { l with status := .idle }
  | .manager m keys =>
    .manager { m with state := [], awaiting := false, finished := false, frontEnd := none } keys

/-- The part as it is defined, without what is there for its use only. -/
def design : Part → Part
  | .leaf l => .leaf { l with link := .free, status := .idle }
  | .manager m keys =>
    .manager { m with
      link := .free, cursor := none, state := [], awaiting := false, finished := false
      frontEnd := none } keys

theorem design_skeleton (p : Part) : p.skeleton.design = p.design := by
  cases p <;> rfl

theorem design_attached (p : Part) (link : Link) : (p.attached link).design = p.design := by
  cases p <;> rfl

end Part

namespace Element

variable {e e' e'' x : Element} {a b c : Address} {key k : String} {m : Manager}
  {keys : List String} {l : Leaf}

/-- The outermost manager's own fields, which hold the session. -/
def session : Element → Manager
  | .manager m _ => m
  | .leaf l => .idle l.name "" none

def setStatus (e : Element) (a : Address) (status : Status) : Element :=
  e.modifyAt (mapLeaf fun l => { l with status := status }) a

def setCursor (e : Element) (a : Address) (key : String) : Element :=
  e.modifyAt (mapManager fun m => { m with cursor := some key }) a

def setState (e : Element) (state : Mapping) : Element :=
  e.mapManager fun m => { m with state := state }

def setAwaiting (e : Element) (awaiting : Bool) : Element :=
  e.mapManager fun m => { m with awaiting := awaiting }

/-- Ends the session. -/
def setFinished (e : Element) : Element :=
  e.mapManager fun m => { m with finished := true }

/-- Sets a cursor and attaches the child there. -/
def moveTo (e : Element) (a : Address) (key : String) : Element :=
  (e.setCursor a key).modifyAt (fun x => (x.attach .holder).1) (key :: a)

/-! ### The session after a change -/

theorem session_eq (hp : e.part? [] = some (.manager m keys)) : e.session = m := by
  cases e with
  | leaf l => cases hp
  | manager m' cs => cases hp; rfl

theorem session_mapManager {f : Manager → Manager} (hp : e.part? [] = some (.manager m keys)) :
    (e.mapManager f).session = f e.session := by
  cases e with
  | leaf l => cases hp
  | manager m' cs => rfl

/-- A change below the top leaves the session alone. -/
theorem session_modifyAt_cons {f : Element → Element} :
    (e.modifyAt f (key :: a)).session = e.session := by
  have hp : (e.modifyAt f (key :: a)).part? [] = e.part? [] :=
    part?_modifyAt_of_not_suffix (not_cons_suffix List.nil_suffix)
  rw [part?_nil, part?_nil] at hp
  unfold session
  cases e <;> cases hx : modifyAt _ f (key :: a) <;> simp_all [part]

@[simp] theorem session_setStatus (status : Status) :
    (e.setStatus a status).session = e.session := by
  cases a with
  | nil => cases e <;> rfl
  | cons key a => exact session_modifyAt_cons

/-- A cursor does not matter to the session. -/
theorem session_setCursor (e : Element) (a : Address) (key : String) :
    ∃ cursor, (e.setCursor a key).session = { e.session with cursor := cursor } := by
  cases a with
  | nil => cases e <;> exact ⟨_, rfl⟩
  | cons k a => exact ⟨_, session_modifyAt_cons⟩

theorem session_moveTo (e : Element) (a : Address) (key : String) :
    ∃ cursor, (e.moveTo a key).session = { e.session with cursor := cursor } := by
  rw [moveTo, session_modifyAt_cons]
  exact session_setCursor e a key

/-! The front end stays the same, whatever changes. -/

@[simp] theorem frontEnd_setState {state : Mapping} :
    (e.setState state).session.frontEnd = e.session.frontEnd := by
  cases e <;> rfl

@[simp] theorem frontEnd_setAwaiting {awaiting : Bool} :
    (e.setAwaiting awaiting).session.frontEnd = e.session.frontEnd := by
  cases e <;> rfl

@[simp] theorem frontEnd_setFinished : e.setFinished.session.frontEnd = e.session.frontEnd := by
  cases e <;> rfl

@[simp] theorem frontEnd_setCursor :
    (e.setCursor a key).session.frontEnd = e.session.frontEnd := by
  obtain ⟨cursor, hc⟩ := session_setCursor e a key
  rw [hc]

@[simp] theorem frontEnd_moveTo : (e.moveTo a key).session.frontEnd = e.session.frontEnd := by
  obtain ⟨cursor, hc⟩ := session_moveTo e a key
  rw [hc]

/-! So does its state, unless it is set. -/

@[simp] theorem state_setAwaiting {awaiting : Bool} :
    (e.setAwaiting awaiting).session.state = e.session.state := by
  cases e <;> rfl

@[simp] theorem state_setFinished : e.setFinished.session.state = e.session.state := by
  cases e <;> rfl

@[simp] theorem state_setCursor :
    (e.setCursor a key).session.state = e.session.state := by
  obtain ⟨cursor, hc⟩ := session_setCursor e a key
  rw [hc]

@[simp] theorem state_moveTo : (e.moveTo a key).session.state = e.session.state := by
  obtain ⟨cursor, hc⟩ := session_moveTo e a key
  rw [hc]

/-! The session is over once it has ended, and not before. -/

@[simp] theorem finished_setState {state : Mapping} :
    (e.setState state).session.finished = e.session.finished := by
  cases e <;> rfl

@[simp] theorem finished_setAwaiting {awaiting : Bool} :
    (e.setAwaiting awaiting).session.finished = e.session.finished := by
  cases e <;> rfl

@[simp] theorem finished_setCursor :
    (e.setCursor a key).session.finished = e.session.finished := by
  obtain ⟨cursor, hc⟩ := session_setCursor e a key
  rw [hc]

@[simp] theorem finished_moveTo : (e.moveTo a key).session.finished = e.session.finished := by
  obtain ⟨cursor, hc⟩ := session_moveTo e a key
  rw [hc]

theorem finished_setFinished {state : Mapping} (hp : e.part? [] = some (.manager m keys)) :
    (e.setState state).setFinished.session.finished = true := by
  cases e with
  | leaf l => cases hp
  | manager m cs => rfl

theorem setState_self : e.setState e.session.state = e := by
  cases e <;> rfl

theorem setAwaiting_self : e.setAwaiting e.session.awaiting = e := by
  cases e <;> rfl

/-- Of two changes of a status the last one counts. -/
theorem setStatus_setStatus (status status' : Status) :
    (e.setStatus a status).setStatus a status' = e.setStatus a status' := by
  rw [setStatus, setStatus, modifyAt_modifyAt, setStatus]
  congr 1
  funext x
  cases x <;> rfl

/-- A manager that goes back to its root has its cursor set there. -/
theorem modifyAt_rewind (hp : e.part? a = some (.manager m keys)) :
    e.modifyAt (mapManager fun m => { m with cursor := some m.root }) a = e.setCursor a m.root := by
  obtain ⟨cs, hx, -⟩ := at?_manager hp
  exact modifyAt_congr hx rfl

/-! ### The parts after a change -/

theorem part?_setStatus (status : Status) : (e.setStatus a status).part? b =
    if b = a then (e.part? a).map (.mapLeaf fun l => { l with status := status })
    else e.part? b :=
  part?_mapLeaf

theorem part?_setCursor : (e.setCursor a key).part? b =
    if b = a then (e.part? a).map (.mapManager fun m => { m with cursor := some key })
    else e.part? b :=
  part?_mapManager

/-- A cursor can be set on any child. -/
theorem IsAimed.setCursor (h : e.IsAimed) (hp : e.part? a = some (.manager m keys))
    (hk : key ∈ keys) : (e.setCursor a key).IsAimed := by
  intro b m' keys' hp'
  rw [part?_setCursor] at hp'
  split at hp'
  · rw [hp] at hp'
    cases hp'
    exact ⟨key, hk, rfl⟩
  · exact h hp'

/-- A change of the session changes the part at the top. -/
theorem part?_mapManager_top {f : Manager → Manager} : (e.mapManager f).part? b =
    if b = [] then (e.part? []).map (.mapManager f) else e.part? b :=
  part?_mapManager (a := [])

theorem part?_mapManager_of_ne {f : Manager → Manager} (h : b ≠ []) :
    (e.mapManager f).part? b = e.part? b := by
  rw [part?_mapManager_top, if_neg h]

/-! ### Moves -/

theorem at?_setCursor_cons : (e.setCursor a key).at? (k :: a) = e.at? (k :: a) := by
  rw [at?_cons, at?_cons, setCursor, at?_modifyAt]
  cases e.at? a with
  | none => rfl
  | some x => simp

theorem at?_moveTo : (e.moveTo a key).at? (key :: a) =
    (e.at? (key :: a)).map fun x => (x.attach .holder).1 := by
  rw [moveTo, at?_modifyAt, at?_setCursor_cons]

/-- A move changes what it moves away from. -/
theorem part?_moveTo_self (hp : e.part? a = some (.manager m keys)) :
    (e.moveTo a key).part? a = some (.manager { m with cursor := some key } keys) := by
  rw [moveTo, part?_modifyAt_of_not_suffix (not_cons_suffix List.suffix_rfl), part?_setCursor,
    if_pos rfl, hp]
  rfl

theorem isActive_moveTo (ha : e.IsActive a) : (e.moveTo a key).IsActive a := by
  refine ha.congr fun b m keys hb hne hp => ⟨m, keys, ?_, rfl⟩
  rw [moveTo, part?_modifyAt_of_not_suffix (not_cons_suffix hb), part?_setCursor, if_neg hne, hp]

theorem isActive_moveTo_cons (ha : e.IsActive a) (hp : e.part? a = some (.manager m keys)) :
    (e.moveTo a key).IsActive (key :: a) :=
  ⟨isActive_moveTo ha, _, _, part?_moveTo_self hp, rfl⟩

/-- Below the child moved to, a move changes the parts at the active addresses. -/
theorem part?_moveTo_of_isActive (hb : key :: a <:+ b) (ha : (e.moveTo a key).IsActive b) :
    (e.moveTo a key).part? b = (e.part? b).map (.attached .holder) := by
  obtain ⟨c, rfl⟩ := hb
  rw [part?_append, part?_append, at?_moveTo]
  cases hx : e.at? (key :: a) with
  | none => rfl
  | some x =>
    rw [isActive_append (x := (x.attach .holder).1) (by rw [at?_moveTo, hx]; rfl),
      isActive_attach] at ha
    cases c with
    | nil => exact part?_attach_nil
    | cons k c => exact part?_attach ha.2 (List.cons_ne_nil k c)

/-- A move changes no other part. -/
theorem part?_moveTo_of_ne (ha : e.IsActive a) (hp : e.part? a = some (.manager m keys))
    (hne : b ≠ a) (hb : ¬(key :: a <:+ b ∧ (e.moveTo a key).IsActive b)) :
    (e.moveTo a key).part? b = e.part? b := by
  by_cases hs : key :: a <:+ b
  · obtain ⟨c, rfl⟩ := hs
    rw [part?_append, part?_append, at?_moveTo]
    cases hx : e.at? (key :: a) with
    | none => rfl
    | some x =>
      refine part?_attach_of_not_isActive fun hc => hb ⟨⟨c, rfl⟩, ?_⟩
      rw [isActive_append (x := (x.attach .holder).1) (by rw [at?_moveTo, hx]; rfl),
        isActive_attach]
      exact ⟨isActive_moveTo_cons ha hp, hc⟩
  · rw [moveTo, part?_modifyAt_of_not_suffix hs, part?_setCursor, if_neg hne]

/-! ### The same skeleton -/

/-- Two flows differ in the status of leaves and in sessions only. -/
def SameSkeleton (e e' : Element) : Prop :=
  ∀ a, (e.part? a).map Part.skeleton = (e'.part? a).map Part.skeleton

namespace SameSkeleton

theorem symm (h : SameSkeleton e e') : SameSkeleton e' e :=
  fun a => (h a).symm

theorem trans (h : SameSkeleton e e') (h' : SameSkeleton e' e'') : SameSkeleton e e'' :=
  fun a => (h a).trans (h' a)

/-- A manager is there in both flows, with the same cursor, link and definition. -/
theorem manager (h : SameSkeleton e e') (hp : e.part? a = some (.manager m keys)) :
    ∃ m', e'.part? a = some (.manager m' keys) ∧ m'.name = m.name ∧ m'.root = m.root ∧
      m'.decider = m.decider ∧ m'.link = m.link ∧ m'.cursor = m.cursor := by
  have ha := h a
  rw [hp] at ha
  cases hp' : e'.part? a with
  | none => rw [hp'] at ha; cases ha
  | some p =>
    rw [hp'] at ha
    cases p with
    | leaf l => cases ha
    | manager m' keys' =>
      obtain ⟨name, root, decider, link, cursor, state, awaiting, finished, frontEnd⟩ := m
      obtain ⟨name', root', decider', link', cursor', state', awaiting', finished', frontEnd'⟩ := m'
      cases ha
      exact ⟨_, rfl, rfl, rfl, rfl, rfl, rfl⟩

theorem leaf (h : SameSkeleton e e') (hp : e.part? a = some (.leaf l)) :
    ∃ status, e'.part? a = some (.leaf { l with status := status }) := by
  have ha := h a
  rw [hp] at ha
  cases hp' : e'.part? a with
  | none => rw [hp'] at ha; cases ha
  | some p =>
    rw [hp'] at ha
    cases p with
    | leaf l' =>
      obtain ⟨name, decider, output, expectation, link, status⟩ := l
      obtain ⟨name', decider', output', expectation', link', status'⟩ := l'
      cases ha
      exact ⟨status', rfl⟩
    | manager m keys => cases ha

/-- What stands at an address reports to the same in both flows. -/
theorem exists_link {p : Part} (h : SameSkeleton e e') (hp : e.part? a = some p) :
    ∃ p', e'.part? a = some p' ∧ p'.link = p.link := by
  cases p with
  | leaf l =>
    obtain ⟨status, hl⟩ := h.leaf hp
    exact ⟨_, hl, rfl⟩
  | manager m keys =>
    obtain ⟨m', hm, -, -, -, hl, -⟩ := h.manager hp
    exact ⟨_, hm, hl⟩

theorem isActive (h : SameSkeleton e e') (ha : e.IsActive a) : e'.IsActive a :=
  ha.congr fun _ _ _ _ _ hp =>
    let ⟨m', hm', _, _, _, _, hc⟩ := h.manager hp
    ⟨m', _, hm', hc⟩

end SameSkeleton

theorem sameSkeleton_modifyAt {f : Element → Element} {g : Part → Part}
    (hf : ∀ b, (e.modifyAt f a).part? b = if b = a then (e.part? a).map g else e.part? b)
    (hg : ∀ p, (g p).skeleton = p.skeleton) : SameSkeleton (e.modifyAt f a) e := by
  intro b
  rw [hf]
  split
  · subst b
    cases e.part? a with
    | none => rfl
    | some p => simp [hg]
  · rfl

theorem sameSkeleton_setStatus (status : Status) : SameSkeleton (e.setStatus a status) e :=
  sameSkeleton_modifyAt (fun _ => part?_setStatus status) fun p => by cases p <;> rfl

theorem sameSkeleton_setState (state : Mapping) : SameSkeleton (e.setState state) e :=
  sameSkeleton_modifyAt (a := []) (fun _ => part?_mapManager) fun p => by cases p <;> rfl

theorem sameSkeleton_setAwaiting (awaiting : Bool) : SameSkeleton (e.setAwaiting awaiting) e :=
  sameSkeleton_modifyAt (a := []) (fun _ => part?_mapManager) fun p => by cases p <;> rfl

theorem sameSkeleton_furnish (frontEnd : Option FrontEnd) (state : Mapping) :
    SameSkeleton (e.mapManager fun m => { m with frontEnd := frontEnd, state := state }) e :=
  sameSkeleton_modifyAt (a := []) (fun _ => part?_mapManager) fun p => by cases p <;> rfl

theorem sameSkeleton_setFinished : SameSkeleton e.setFinished e :=
  sameSkeleton_modifyAt (a := []) (fun _ => part?_mapManager) fun p => by cases p <;> rfl

/-! ### The same design -/

/-- Two flows are made of the same definitions in the same way. -/
def SameDesign (e e' : Element) : Prop :=
  ∀ a, (e.part? a).map Part.design = (e'.part? a).map Part.design

namespace SameDesign

theorem refl (e : Element) : SameDesign e e :=
  fun _ => rfl

theorem symm (h : SameDesign e e') : SameDesign e' e :=
  fun a => (h a).symm

theorem trans (h : SameDesign e e') (h' : SameDesign e' e'') : SameDesign e e'' :=
  fun a => (h a).trans (h' a)

/-- A part has its like in the other flow. -/
theorem exists_part {p : Part} (h : SameDesign e e') (hp : e.part? a = some p) :
    ∃ p', e'.part? a = some p' ∧ p'.design = p.design := by
  have ha := h a
  rw [hp] at ha
  exact Option.map_eq_some_iff.1 ha.symm

/-- A manager has the same children in the other flow. -/
theorem exists_manager (h : SameDesign e e') (hm : e.part? a = some (.manager m keys)) :
    ∃ m', e'.part? a = some (.manager m' keys) := by
  obtain ⟨q, hq, hd⟩ := h.exists_part hm
  cases q with
  | leaf l => cases hd
  | manager m' keys' =>
    obtain ⟨-, rfl⟩ := Part.manager.inj hd
    exact ⟨m', hq⟩

end SameDesign

theorem SameSkeleton.sameDesign (h : SameSkeleton e e') : SameDesign e e' := by
  intro a
  have ha := congrArg (Option.map Part.design) (h a)
  simpa [Option.map_map, Function.comp_def, Part.design_skeleton] using ha

/-- A change that leaves the design as it is below an address does so in the whole
    flow. -/
theorem sameDesign_modifyAt {f : Element → Element} (hf : ∀ x, SameDesign (f x) x) :
    SameDesign (e.modifyAt f a) e := by
  intro b
  by_cases hb : a <:+ b
  · obtain ⟨c, rfl⟩ := hb
    rw [part?_modifyAt_append, part?_append]
    cases e.at? a with
    | none => rfl
    | some x => exact hf x c
  · rw [part?_modifyAt_of_not_suffix hb]

theorem sameDesign_setCursor : SameDesign (e.setCursor a key) e := by
  refine sameDesign_modifyAt fun x b => ?_
  rw [part?_mapManager_top]
  split
  · subst b
    cases x <;> rfl
  · rfl

theorem sameDesign_attach (link : Link) : SameDesign (e.attach link).1 e := by
  intro a
  obtain ⟨f, hf, hcases⟩ := part?_attach_eq_map link (e := e) a
  rw [hf, Option.map_map]
  congr 1
  funext p
  rcases hcases with rfl | ⟨link', rfl⟩
  · rfl
  · exact p.design_attached link'

theorem sameDesign_moveTo : SameDesign (e.moveTo a key) e :=
  (sameDesign_modifyAt fun _ => sameDesign_attach .holder).trans sameDesign_setCursor

end Element

end Parley

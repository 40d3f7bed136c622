import Parley.Proofs.Flow.Merging
import Parley.Proofs.Flow.Step

/-!
# What attached elements see

A leaf that reports to a manager sees the state of the manager that owns the session, and so does
all else that reports to the same manager. Here the scene around them may be any: nothing is asked
of the rest of the flow, as long as the reports end at a manager.

* `Act.inputLeaf_of_patchOf`: a leaf decides in that state, into which the patch is merged before
  the decision is reported (`Scene.resolve`);
* `Scene.nextSees_stateFor`: a child that the manager then moves to sees the state as it has been
  left, for a move changes cursors, links and statuses only.
-/

namespace Parley

open Element

/-! ### Failures of acts -/

/-- What an act binds has succeeded if the act has. -/
theorem Act.ok_of_bind {α β : Type} {x : Act α} {f : α → Act β} {s s' : Scene} {y : β}
    (h : (x >>= f) s = (.ok y, s')) : ∃ z u, x s = (.ok z, u) ∧ f z u = (.ok y, s') := by
  rw [bind_apply] at h
  split at h
  · exact ⟨_, _, ‹_›, h⟩
  · cases h

namespace Element

variable {e x : Element} {a : Address} {key : String} {link : Link}

theorem link_attach : (x.attach link).1.link = link := by
  cases x with
  | leaf l => rfl
  | manager m cs =>
    rw [attach]
    split <;> rfl

theorem update_id {cs : List (String × Element)} : update (fun x => x) key cs = cs := by
  induction cs with
  | nil => rfl
  | cons c cs ih => rw [update, ih, ite_self]

theorem modifyAt_id : e.modifyAt (fun x => x) a = e := by
  induction a with
  | nil => rfl
  | cons key a ih =>
    have hchild : updateChild (fun x => x) key = fun x => x := by
      funext x
      cases x with
      | leaf l => rfl
      | manager m cs => rw [updateChild, update_id]
    rw [modifyAt, hchild, ih]

end Element

namespace Scene

variable {s s' : Scene} {a o : Address} {key : String} {m : Manager}

theorem manager?_eq_some_iff :
    s.manager? a = some m ↔ ∃ keys, s.top.part? a = some (.manager m keys) := by
  constructor
  · intro h
    unfold manager? at h
    split at h
    · rename_i m' cs hx
      cases h
      exact ⟨_, by rw [part?, hx]; rfl⟩
    · cases h
  · rintro ⟨keys, h⟩
    obtain ⟨cs, hx, -⟩ := at?_manager h
    rw [manager?, hx]

/-! ### Owners -/

/-- Reports go up. -/
theorem suffix_of_ownerOf (h : s.ownerOf a = .manager o) : o <:+ a := by
  induction a with
  | nil =>
    rw [ownerOf] at h
    cases hsup : s.superior [] with
    | none =>
      rw [hsup] at h
      cases h
      exact List.suffix_rfl
    | some up =>
      rw [hsup] at h
      cases h
      obtain ⟨key, hkey⟩ := superior_eq_manager hsup
      cases hkey
  | cons key a ih =>
    rw [ownerOf] at h
    split at h
    · exact (ih h).trans (List.suffix_cons key a)
    · cases h
    · cases h
      exact List.suffix_rfl

theorem superior_congr (h : (s'.top.part? a).map Part.link = (s.top.part? a).map Part.link) :
    s'.superior a = s.superior a := by
  unfold superior
  rw [link_at?, link_at?, h]

/-- Reports end where they did as long as no link on the way is changed. -/
theorem ownerOf_congr
    (h : ∀ b, b <:+ a → (s'.top.part? b).map Part.link = (s.top.part? b).map Part.link) :
    s'.ownerOf a = s.ownerOf a := by
  induction a with
  | nil => rw [ownerOf, ownerOf, superior_congr (h [] List.suffix_rfl)]
  | cons key a ih =>
    rw [ownerOf, ownerOf, superior_congr (h _ List.suffix_rfl),
      ih fun b hb => h b (hb.trans (List.suffix_cons key a))]

/-- The state of the owner is what is seen. -/
theorem stateFor_of_ownerOf (ho : s.ownerOf a = .manager o) (hm : s.manager? o = some m) :
    s.stateFor (.manager a) = m.state := by
  rw [stateFor, show s.owner (.manager a) = .manager o from ho]
  simp [hm]

/-! ### Changes -/

/-- What a decision makes of a scene: the owner at `o` has another state, the leaf at `a` is done,
    and the consultation is noted. -/
def resolve (s : Scene) (o a : Address) (state : Mapping) (call : Call) : Scene :=
  { (s.modifyManager o fun m => { m with state := state }).modifyLeaf a
      fun l => { l with status := .resolved } with
    calls := s.calls ++ [call] }

/-- The owner stays so, and has the state. -/
theorem owner_resolve (ho : s.ownerOf a = .manager o) (hm : s.manager? o = some m)
    {state : Mapping} {call : Call} (hs : s'.top = (s.resolve o (key :: a) state call).top) :
    s'.ownerOf a = .manager o ∧ s'.manager? o = some { m with state := state } := by
  obtain ⟨keys, hkeys⟩ := manager?_eq_some_iff.1 hm
  have hpart (b : Address) (hb : b <:+ a) : s'.top.part? b =
      if b = o then some (.manager { m with state := state } keys) else s.top.part? b := by
    rw [hs, resolve, modifyLeaf, part?_modifyAt_of_not_suffix (not_cons_suffix hb), modifyManager,
      part?_mapManager, hkeys]
    rfl
  refine ⟨(ownerOf_congr fun b hb => ?_).trans ho, manager?_eq_some_iff.2 ⟨keys, ?_⟩⟩
  · rw [hpart b hb]
    split
    · rw [‹b = o›, hkeys]
      rfl
    · rfl
  · rw [hpart o (suffix_of_ownerOf ho), if_pos rfl]

/-- A manager that moves to a child sees the state that it has seen. -/
theorem stateFor_moveTo (ho : s.ownerOf a = .manager o) (hm : s.manager? o = some m)
    (hs : s'.top = s.top.moveTo a key) : s'.stateFor (.manager a) = m.state := by
  obtain ⟨keys, hkeys⟩ := manager?_eq_some_iff.1 hm
  have hpart (b : Address) (hb : b <:+ a) : s'.top.part? b = (s.top.setCursor a key).part? b := by
    rw [hs, moveTo, part?_modifyAt_of_not_suffix (not_cons_suffix hb)]
  have howner : s'.ownerOf a = .manager o := by
    refine (ownerOf_congr fun b hb => ?_).trans ho
    rw [hpart b hb, part?_setCursor]
    split
    · rw [‹b = a›]
      cases s.top.part? a with
      | none => rfl
      | some p => cases p <;> rfl
    · rfl
  -- The owner may be the manager itself, whose cursor is another one then.
  have hmanager : ∃ cursor, s'.top.part? o = some (.manager { m with cursor := cursor } keys) := by
    rw [hpart o (suffix_of_ownerOf ho), part?_setCursor]
    split
    · rw [← ‹o = a›, hkeys]
      exact ⟨some key, rfl⟩
    · exact ⟨m.cursor, hkeys⟩
  obtain ⟨cursor, hmanager⟩ := hmanager
  rw [stateFor_of_ownerOf howner (manager?_eq_some_iff.2 ⟨keys, hmanager⟩)]

theorem superior_moveTo (hs : s'.top = s.top.moveTo a key) (hc : (s.top.at? (key :: a)).isSome) :
    s'.superior (key :: a) = some (.manager a) := by
  obtain ⟨x, hx⟩ := Option.isSome_iff_exists.1 hc
  unfold superior
  rw [hs, at?_moveTo, hx, Option.map_some, Option.map_some, link_attach]

end Scene

/-! ### Steps -/

namespace Act

variable {s s' : Scene} {a p o : Address} {key : String} {m : Manager} {l : Leaf} {d : Decision}
  {cs : List (String × Element)} {t : Option Task} {v : Value} {es : Mapping}

/-- A patch whose keys are texts is merged into a state whose keys are. An empty one, which is
    handed over as none, changes nothing. -/
theorem mergePatch_patchOf (ho : s.ownerOf a = .manager o) (hm : s.manager? o = some m)
    (hs : m.state.IsTextual) (hes : es.IsTextual) (hd : d.patch = Decision.patchOf es) :
    (mergePatch (.manager a) d).Yields s (.ok ())
      (s.modifyManager o fun m' => { m' with state := m.state.merge es }) := by
  have hstate := Scene.stateFor_of_ownerOf ho hm
  unfold mergePatch
  rw [hd, Decision.patchOf]
  cases es with
  | nil =>
    -- Nothing is merged, and the state that is set is the old one.
    have hsame : (s.modifyManager o fun m' => { m' with state := m.state.merge [] }) = s := by
      obtain ⟨keys, hkeys⟩ := Scene.manager?_eq_some_iff.1 hm
      obtain ⟨cs, hx, -⟩ := at?_manager hkeys
      rw [Scene.modifyManager, modifyAt_congr (g := fun x => x) hx rfl, modifyAt_id]
    rw [hsame]
    exact pure_yields ()
  | cons e es =>
    obtain ⟨keys, hkeys⟩ := (hs.merge hes).exists_keysLiteral
    have hmerged : (s.stateFor (.manager a)).mergeValue (.record (e :: es)) =
        .ok (m.state.merge (e :: es)) := by
      rw [hstate, Mapping.mergeValue_record]
    exact merge_merged ho hmerged hkeys

/-- A leaf decides in the state of the owner, which merges the patch before the decision is
    reported. -/
theorem inputLeaf_of_patchOf (hup : s.superior (key :: p) = some (.manager p))
    (ho : s.ownerOf p = .manager o) (hm : s.manager? o = some m)
    (hdec : l.decider.decision (some v) m.state = .ok d) (hs : m.state.IsTextual)
    (hes : es.IsTextual) (hd : d.patch = Decision.patchOf es) (hw : d.next.isWritable = true) :
    (inputLeaf (key :: p) l v).Yields s (.ok (some (d.task p)))
      (s.resolve o (key :: p) (m.state.merge es)
        ⟨l.name, l.decider.label, some v, m.state⟩) := by
  have hstate := Scene.stateFor_of_ownerOf ho hm
  let call : Call := ⟨l.name, l.decider.label, some v, m.state⟩
  let consulted : Scene := { s with calls := s.calls ++ [call] }
  have hconsult : (consult l.name l.decider (some v) m.state).Yields s (.ok d) consulted := by
    rw [← hdec]
    exact consult_spec l.name l.decider (some v) m.state
  have howner : consulted.ownerOf p = .manager o := by
    rw [← ho]
    exact Scene.ownerOf_congr fun _ _ => rfl
  -- The scene is looked at twice, with whatever log it has by then.
  refine .get_bind fun log => ?_
  rw [show ({ s with log := log } : Scene).superior (key :: p) = some (.manager p) from hup]
  refine .get_bind fun log => ?_
  rw [Scene.stateFor_log, hstate]
  exact .bind hconsult (.bind (mergePatch_patchOf howner hm hs hes hd)
    (.bind (modify_yields fun _ => rfl) (report_yields hw)))

/-- A leaf whose decision fails has been consulted, and nothing else is done. -/
theorem inputLeaf_of_error {cause : Fault} (hup : s.superior (key :: p) = some (.manager p))
    (ho : s.ownerOf p = .manager o) (hm : s.manager? o = some m)
    (hdec : l.decider.decision (some v) m.state = .error cause) :
    (inputLeaf (key :: p) l v).Yields s (.error cause)
      { s with calls := s.calls ++ [⟨l.name, l.decider.label, some v, m.state⟩] } := by
  have hstate := Scene.stateFor_of_ownerOf ho hm
  refine .get_bind fun log => ?_
  rw [show ({ s with log := log } : Scene).superior (key :: p) = some (.manager p) from hup]
  refine .get_bind fun log => ?_
  rw [Scene.stateFor_log, hstate]
  exact .bind_error (hdec ▸ consult_spec l.name l.decider (some v) m.state)

theorem top_of_attachAt {link : Link} {x : Element} (h : attachAt a link s = (.ok (), s'))
    (hx : s.top.at? a = some x) : s'.top = s.top.modifyAt (fun x => (x.attach link).1) a := by
  obtain ⟨_, u, hget, h⟩ := ok_of_bind h
  cases hget
  rw [hx] at h
  obtain ⟨⟨⟩, u, hset, h⟩ := ok_of_bind h
  cases hset
  -- A fault on the way down would have ended the act.
  cases hr : (x.attach link).2 with
  | some cause =>
    rw [hr] at h
    cases h
  | none =>
    rw [hr] at h
    cases h
    exact modifyAt_congr hx rfl

/-- A move that succeeds sets the cursor on a child, attaches it and has the manager executed. -/
theorem ok_of_moveManager (h : moveManager a m cs (.text key) s = (.ok t, s'))
    (hx : s.top.at? a = some (.manager m cs)) : t = some (.execute a) ∧
      s'.top = s.top.moveTo a key ∧ (s.top.at? (key :: a)).isSome := by
  -- The target is found, the move is logged, the cursor is set, and the child is attached.
  obtain ⟨key', s₁, htarget, h⟩ := ok_of_bind h
  obtain ⟨⟨⟩, s₂, hwrite, h⟩ := ok_of_bind h
  obtain ⟨⟨⟩, s₃, hset, h⟩ := ok_of_bind h
  obtain ⟨⟨⟩, s₄, hattach, h⟩ := ok_of_bind h
  cases h
  cases hset
  cases hwrite
  simp only [targetKey] at htarget
  split at htarget
  · cases htarget
    have hkey : key ∈ cs.map Prod.fst := by
      simpa using ‹(cs.any fun c => decide (c.1 = key)) = true›
    obtain ⟨x, hc⟩ := exists_lookup hkey
    have hchild : s.top.at? (key :: a) = some x := by
      rw [at?_cons, hx]
      exact hc
    refine ⟨rfl, ?_, Option.isSome_iff_exists.2 ⟨x, hchild⟩⟩
    exact top_of_attachAt hattach (at?_setCursor_cons.trans hchild)
  · cases htarget

/-- A manager that is executed has the child at its cursor executed. -/
theorem ok_of_executeManager (h : executeManager a m cs s = (.ok t, s'))
    (hc : m.cursor = some key) : t = some (.execute (key :: a)) ∧ s' = s := by
  unfold executeManager at h
  split at h
  · cases h
  · obtain ⟨key', u, hcur, h⟩ := ok_of_bind h
    cases h
    simp only [currentKey, hc] at hcur
    split at hcur
    · cases hcur
      exact ⟨rfl, rfl⟩
    · cases hcur

end Act

/-- Only a manager moves. -/
theorem Task.moveManager_of_step {s s' : Scene} {p : Address} {target : Value} {t : Task}
    (h : (Task.move p target).step s = (.ok (some t), s')) :
    ∃ m cs, s.top.at? p = some (.manager m cs) ∧
      Act.moveManager p m cs target s = (.ok (some t), s') := by
  cases hx : s.top.at? p with
  | none =>
    simp only [step, bind_apply, get_apply, hx] at h
    cases h
  | some x =>
    simp only [step, bind_apply, get_apply, hx] at h
    cases x with
    | leaf l => cases h
    | manager m cs => exact ⟨m, cs, rfl, h⟩

/-- If the manager at an address is told to move to a child, and gets to it, then this state is
    what the child sees when it is executed. -/
def Scene.NextSees (s : Scene) (p : Address) (key : String) (state : Mapping) : Prop :=
  ∀ ⦃t t' s₁ s₂⦄, (Task.move p (.text key)).step s = (.ok (some t), s₁) →
    t.step s₁ = (.ok (some t'), s₂) → t' = .execute (key :: p) ∧
      s₂.superior (key :: p) = some (.manager p) ∧ s₂.stateFor (.manager p) = state

/-- The child sees what the manager has seen. -/
theorem Scene.nextSees_stateFor {s : Scene} {p o : Address} {m : Manager}
    (ho : s.ownerOf p = .manager o) (hm : s.manager? o = some m) (key : String) :
    s.NextSees p key m.state := by
  intro t t' s₁ s₂ hmove hexecute
  obtain ⟨mover, cs, hx, hmove⟩ := Task.moveManager_of_step hmove
  obtain ⟨ht, htop, hc⟩ := Act.ok_of_moveManager hmove hx
  cases ht
  -- The cursor of the manager is on the child now.
  have hself : s₁.top.part? p =
      some (.manager { mover with cursor := some key } (cs.map Prod.fst)) := by
    rw [htop]
    exact part?_moveTo_self (by rw [part?, hx]; rfl)
  obtain ⟨cs', hx', -⟩ := at?_manager hself
  simp only [Task.step, bind_apply, get_apply, hx'] at hexecute
  obtain ⟨ht, rfl⟩ := Act.ok_of_executeManager hexecute rfl
  cases ht
  exact ⟨rfl, superior_moveTo htop hc, stateFor_moveTo ho hm htop⟩

end Parley

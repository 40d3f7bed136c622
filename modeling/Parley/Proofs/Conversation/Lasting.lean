import Parley.Proofs.Conversation.Session
import Parley.Proofs.Flow.Failure
import Parley.Proofs.Flow.Ownership

/-!
# What outlasts every call

Whatever the front end does, a conversation is fresh or has its flow wired
(`Conversation.IsIntact`), and so it stays in every call. A property of flows that
outlasts the start of a conversation and every step (`Element.Lasts`) holds of the
flow after every history of calls, and whenever a task is performed in the course of
it (`Conversation.IsIntact.lasts`).

A call that fails is refused, or cut short, or comes to a task with a fault that a
handler or the front end raises or the traversal finds (`Conversation.origin_of_turn`).
-/

namespace Parley

open Element

/-- A property of flows that outlasts the start of a conversation and every step. -/
structure Element.Lasts (J : Element → Prop) : Prop where
  opened : ∀ {e : Element} (frontEnd : Option FrontEnd) (state : Mapping), J e →
    J ((e.mapManager fun m => { m with frontEnd := frontEnd, state := state }).attach .free).1
  step : ∀ {e : Element} {t : Task} {o : Outcome}, t.Fits e → t.Step e o → J e → J o.top

namespace Task.Runs

variable {J : Element → Prop} {e : Element} {t : Task} {n : Nat} {r : Course}

/-- What outlasts every step outlasts a run. -/
theorem lasts (hr : t.Runs n e r) (hJ : Lasts J) (hf : t.Fits e) (h : J e) : J r.top := by
  induction hr with
  | endless => exact h
  | failed hs | settled hs => exact hJ.step hf hs h
  | next hs ho _ ih => exact ih (hs.fits hf ho) (hJ.step hf hs h)

end Task.Runs

namespace Conversation

variable {c c' c₀ : Conversation} {x : Entry} {r : Course} {J : Element → Prop} {s : Scene}
  {t : Task} {cause : Fault}

/-! ### Intact conversations -/

theorem IsIntact.enter (h : c.IsIntact) (x : Entry) : (c.enter x).IsIntact := by
  cases ha : c.admits x with
  | false =>
    rw [x.enter_of_refused ha]
    exact h
  | true =>
    obtain ⟨r, hr⟩ := performs_of_admits h ha
    exact .inr ⟨hr.started, hr.wired⟩

theorem IsIntact.foldl (h : c.IsIntact) (xs : List Entry) :
    (xs.foldl Conversation.enter c).IsIntact :=
  foldl_enter (fun h _ => h.enter _) h xs

theorem Calls.isIntact {rs : List Request} (hc : c₀.Calls rs c x) (h : c₀.IsIntact) :
    c.IsIntact := by
  obtain ⟨xs, ys, -, rfl⟩ := hc
  exact h.foldl xs

/-- Once it has been started, the flow of an intact conversation is wired. -/
theorem IsIntact.wired (h : c.IsIntact) (hs : c.started = true) : c.scene.top.Wired := by
  rcases h with h | ⟨-, hw⟩
  · rw [h.started] at hs
    cases hs
  · exact hw

/-! ### Tasks of a history -/

/-- What holds of the first task of each entry that is taken, and outlasts every step,
    holds of all tasks of a history. -/
theorem forall_performed {P : Conversation → Prop} {I : Element → Task → Prop}
    (hentry : ∀ {c x}, P c → c.admits x = true →
      P (c.enter x) ∧ ∃ r, c.Performs x r ∧ I (c.flowFor x) x.first)
    (hstep : ∀ {e t o t'}, I e t → t.Step e o → o.result = .ok (some t') → I o.top t')
    (h : P c) (xs : List Entry) : ∀ q ∈ c.performed xs, I q.1.top q.2 := by
  induction xs generalizing c with
  | nil => exact nofun
  | cons x xs ih =>
    intro q hq
    cases ha : c.admits x with
    | false =>
      rw [performed, x.tasks_of_refused ha, x.enter_of_refused ha] at hq
      exact ih h q hq
    | true =>
      obtain ⟨hP, r, hr, hfirst⟩ := hentry h ha
      rcases List.mem_append.1 hq with hq | hq
      · exact hr.forall_tasks hfirst hstep q hq
      · exact ih hP q hq

/-- If the front end of the conversation takes all that it is told, so does that of the
    session, whenever a task is performed. -/
theorem performed_isReceptive (h : c.Phase) (hr : c.IsReceptive) (xs : List Entry) :
    ∀ q ∈ c.performed xs, q.1.top.session.IsReceptive := by
  refine forall_performed (P := fun c => c.Phase ∧ c.IsReceptive)
    (I := fun e _ => e.session.IsReceptive) ?_ (fun hr hs _ => hs.isReceptive hr) ⟨h, hr⟩ xs
  intro c x ⟨h, hr⟩ ha
  obtain ⟨r, ht⟩ := takes_of_admits h ha
  exact ⟨⟨h.enter x, hr.enter h x⟩, r, ht.toPerforms, ht.isReceptive_flowFor hr⟩

/-! ### Lasting properties -/

/-- A lasting property holds of the flow that an entry is to run. -/
theorem flowFor_lasts (hJ : Lasts J) (hc : J c.scene.top) (x : Entry) : J (c.flowFor x) := by
  cases x with
  | start => exact hJ.opened _ _ hc
  | deliver => exact hc

/-- In every history of calls, lasting properties hold of the flow, and the tasks fit it. -/
theorem IsIntact.lasts (h : c.IsIntact) (hJ : Lasts J) (hc : J c.scene.top) (xs : List Entry) :
    J (xs.foldl Conversation.enter c).scene.top ∧
      ∀ q ∈ c.performed xs, q.2.Fits q.1.top ∧ J q.1.top := by
  have hentry {c : Conversation} {x : Entry} (hp : c.IsIntact ∧ J c.scene.top)
      (ha : c.admits x = true) : ((c.enter x).IsIntact ∧ J (c.enter x).scene.top) ∧
        ∃ r, c.Performs x r ∧ x.first.Fits (c.flowFor x) ∧ J (c.flowFor x) := by
    obtain ⟨r, hr⟩ := performs_of_admits hp.1 ha
    have hflow := flowFor_lasts hJ hp.2 x
    exact ⟨⟨hp.1.enter x, hr.top ▸ hr.runs.lasts hJ hr.fits hflow⟩, r, hr, hr.fits, hflow⟩
  refine ⟨(foldl_enter (fun hp ha => (hentry hp ha).1) ⟨h, hc⟩ xs).2,
    forall_performed (I := fun e t => t.Fits e ∧ J e) hentry ?_ ⟨h, hc⟩ xs⟩
  intro e t o t' ⟨hf, he⟩ hs ho
  exact ⟨hs.fits hf ho, hJ.step hf hs he⟩

/-- Every task of a history fits the flow that it finds. -/
theorem IsIntact.fits (h : c.IsIntact) {xs : List Entry} (ht : (s, t) ∈ c.performed xs) :
    t.Fits s.top :=
  ((h.lasts (J := fun _ => True) ⟨fun _ _ _ => trivial, fun _ _ _ => trivial⟩ trivial xs).2 _ ht).1

theorem performed_append (c : Conversation) (xs ys : List Entry) :
    c.performed (xs ++ ys) = c.performed xs ++ (xs.foldl Conversation.enter c).performed ys := by
  induction xs generalizing c with
  | nil => rfl
  | cons x xs ih =>
    rw [List.cons_append, performed, performed, ih, List.append_assoc]
    rfl

/-- The tasks of one of the calls are among those that are performed. -/
theorem Calls.mem_performed {rs : List Request} (hc : c₀.Calls rs c x)
    (ht : (s, t) ∈ x.tasks c) : (s, t) ∈ c₀.performed (c₀.entries rs) := by
  obtain ⟨xs, ys, he, rfl⟩ := hc
  rw [he, performed_append, performed]
  exact List.mem_append_right _ (List.mem_append_left _ ht)

/-- Flows keep the design that they have been built with. -/
theorem lasts_sameDesign (e₀ : Element) : Lasts fun e => SameDesign e e₀ where
  opened frontEnd state h :=
    ((sameDesign_attach .free).trans (sameSkeleton_furnish frontEnd state).sameDesign).trans h
  step _ hs h := hs.sameDesign.trans h

/-- To start a conversation does not change the design of its flow. -/
theorem sameDesign_flowFor (c : Conversation) (x : Entry) :
    SameDesign (c.flowFor x) c.scene.top :=
  flowFor_lasts (lasts_sameDesign _) (.refl _) x

/-- The outermost manager stays the sole owner of the session. -/
theorem lasts_isSoleOwner : Lasts IsSoleOwner where
  opened _ _ h := (h.mapManager _).attach .free
  step _ hs h := hs.isSoleOwner h

/-! ### Calls that fail -/

/-- A call that fails has been refused, or has been cut short, or has come to a task with
    a step that fails. -/
theorem exists_failed_of_turn (h : c.IsIntact) (he : (x.turn c).1 = .error cause) :
    cause = .protocol (c.refusal x) ∨ cause = .endless ∨
      ∃ q ∈ x.tasks c, ∃ o, q.2.Step q.1.top o ∧ o.result = .error cause := by
  cases ha : c.admits x with
  | false =>
    rw [x.turn_of_refused ha] at he
    cases he
    exact .inl rfl
  | true =>
    obtain ⟨r, hr⟩ := performs_of_admits h ha
    rw [hr.result] at he
    rcases hr.runs.exists_failed he with hend | ⟨q, hq, hfails⟩
    · exact .inr (.inl hend)
    · rw [← hr.tasks, List.mem_map] at hq
      obtain ⟨q, hq, rfl⟩ := hq
      exact .inr (.inr ⟨q, hq, hfails⟩)

/-- Its fault is one that a handler or the front end raises, or the traversal finds. -/
theorem origin_of_turn (h : c.IsIntact) (he : (x.turn c).1 = .error cause) :
    cause = .protocol (c.refusal x) ∨ cause = .endless ∨
      ∃ q ∈ x.tasks c, q.1.top.Raises cause ∨ q.2.Finds q.1.top cause := by
  rcases exists_failed_of_turn h he with hr | hr | ⟨q, hq, o, hs, ho⟩
  · exact .inl hr
  · exact .inr (.inl hr)
  · exact .inr (.inr ⟨q, hq, hs.origin ho⟩)

/-! ### Conversations over a blueprint -/

/-- A conversation over a blueprint is one over the flow that is built, with nothing
    done yet. -/
theorem ofBlueprint_eq_ok_iff {b : Blueprint} {root id : String} {frontEnd : Option FrontEnd}
    {state : Value} : ofBlueprint b root frontEnd state id = .ok c ↔
      ∃ top initial, b.build root frontEnd = .ok top ∧ Mapping.ofValue state = .ok initial ∧
        c = ⟨{ Scene.ofElement top with
            log := [⟨.debug, .builder, s!"Built flow tree rooted at '{root}'"⟩] },
          frontEnd, initial, id, false, 0⟩ := by
  rw [ofBlueprint]
  cases hb : b.build root frontEnd with
  | error cause => simp [bind, Except.bind]
  | ok top =>
    obtain ⟨hnew, -, m, cs, rfl, -⟩ := Blueprint.build_ok hb
    have hm : m.isOutermost = true := decide_eq_true (hnew (a := []) rfl).1
    cases hs : Mapping.ofValue state with
    | error cause => simp [bind, Except.bind, begin?, Scene.ofElement, hm, hs]
    | ok initial => simp [bind, Except.bind, begin?, Scene.ofElement, hm, hs, eq_comm]

/-- In the course of a conversation the outermost manager is called by the root. -/
theorem session_name_of_performed {b : Blueprint} {root id : String} {frontEnd : Option FrontEnd}
    {state : Value} (h : ofBlueprint b root frontEnd state id = .ok c₀) {xs : List Entry}
    (ht : (s, t) ∈ c₀.performed xs) : s.top.session.name = root := by
  obtain ⟨top, initial, hbuild, -, hc₀⟩ := ofBlueprint_eq_ok_iff.1 h
  obtain ⟨-, -, m, cs, rfl, hname⟩ := Blueprint.build_ok hbuild
  have hintact : c₀.IsIntact := .inl (ofBlueprint_ok h).1
  obtain ⟨-, hsame⟩ := (hintact.lasts (lasts_sameDesign (.manager m cs))
    (hc₀ ▸ .refl _) xs).2 _ ht
  exact hsame.session_name.trans hname

theorem initial_ofBlueprint {b : Blueprint} {root id : String} {frontEnd : Option FrontEnd}
    {state : Value} {initial : Mapping} (hs : Mapping.ofValue state = .ok initial)
    (h : ofBlueprint b root frontEnd state id = .ok c) : c.initial = initial := by
  obtain ⟨top, initial', -, hs', rfl⟩ := ofBlueprint_eq_ok_iff.1 h
  exact Except.ok.inj (hs'.symm.trans hs)

end Conversation

end Parley

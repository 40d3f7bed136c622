import Parley.Proofs.Conversation.Lasting
import Parley.Proofs.Flow.Patching

/-!
# The shared state of a conversation

All calls of a conversation together consult deciders one after the other, and the
state of the session is the fold of these consultations over the state that the
conversation has been given: each decider is handed the state that the one before has
left, every task is performed in the state that the last one before it has left, and
the last one leaves the state of the conversation (`state_of_consultations`).

The conversation takes up the given state when it is started; before that its state
is empty.
-/

namespace Parley

open Element Consultation

namespace Conversation

variable {c c₀ : Conversation} {x : Entry} {r : Course}

/-- The consultations that the tasks of calls take. -/
def consultations (ts : List (Scene × Task)) : List Consultation :=
  Task.consultations (ts.map fun q => (q.1.top, q.2))

theorem consultations_append (ts ts' : List (Scene × Task)) :
    consultations (ts ++ ts') = consultations ts ++ consultations ts' := by
  simp [consultations, Task.consultations]

/-- The state that the next call finds: before the conversation is started, the one
    that it has been given. -/
def base (c : Conversation) : Mapping :=
  if c.started then c.state else c.initial

theorem state_eq (h : c.scene.top.Wired) : c.state = c.scene.top.session.state :=
  Scene.stateFor_eq (InUse.top h)

/-! ### Calls -/

/-- A conversation that is started takes up the state that it has been given. -/
theorem state_opened (h : c.IsFresh) : c.opened.session.state = c.initial := by
  obtain ⟨m, keys, hm⟩ := h.outermost
  have ho : c.opened.part? [] = some _ := part?_attach_nil.trans (congrArg _ (part?_furnish hm))
  rw [session_eq ho]

theorem state_flowFor (h : c.IsIntact) (ha : c.admits x = true) :
    (c.flowFor x).session.state = c.base := by
  cases x with
  | start limit =>
    have hs : c.started = false := by simpa [admits] using ha
    rw [base, hs, if_neg Bool.false_ne_true]
    rcases h with h | ⟨h, -⟩
    · exact state_opened h
    · rw [hs] at h
      cases h
  | deliver limit v =>
    obtain ⟨⟨hs, -⟩, -⟩ : (c.started = true ∧ c.isFinished = false) ∧ c.isAwaiting = true := by
      simpa [admits, accepts] using ha
    rw [base, hs, if_pos rfl, state_eq (h.wired hs)]
    rfl

/-- A call is the fold of its consultations. -/
theorem Performs.consults (hr : c.Performs x r) (h : c.IsIntact) (ha : c.admits x = true) :
    (c.enter x).scene.calls = c.scene.calls ++ calls c.base (consultations (x.tasks c)) ∧
      (c.enter x).base = stateAfter c.base (consultations (x.tasks c)) ∧
      ∀ xs q ys, x.tasks c = xs ++ q :: ys →
        q.1.top.session.state = stateAfter c.base (consultations xs) := by
  obtain ⟨hcalls, hstate, htasks⟩ := hr.runs.consults hr.fits
  rw [state_flowFor h ha, ← hr.tasks] at hcalls hstate htasks
  obtain ⟨log, he⟩ := hr.enter
  refine ⟨?_, ?_, fun xs q ys hq => ?_⟩
  · rw [he, hcalls]
    rfl
  · rw [base, hr.started, if_pos rfl, state_eq hr.wired, hr.top, hstate]
    rfl
  · refine htasks (xs.map fun q => (q.1.top, q.2)) (q.1.top, q.2)
      (ys.map fun q => (q.1.top, q.2)) ?_
    rw [hq, List.map_append, List.map_cons]

theorem initial_foldl (h : c.IsIntact) (xs : List Entry) :
    (xs.foldl Conversation.enter c).initial = c.initial := by
  refine (foldl_enter (P := fun c' => c'.IsIntact ∧ c'.initial = c.initial) ?_ ⟨h, rfl⟩ xs).2
  intro c' x ⟨h', hinitial⟩ ha
  obtain ⟨r, hr⟩ := performs_of_admits h' ha
  obtain ⟨log, he⟩ := hr.enter
  exact ⟨h'.enter x, he ▸ hinitial⟩

/-- So is a history of calls. -/
theorem IsIntact.consults (h : c.IsIntact) (xs : List Entry) :
    (xs.foldl Conversation.enter c).scene.calls =
        c.scene.calls ++ calls c.base (consultations (c.performed xs)) ∧
      (xs.foldl Conversation.enter c).base = stateAfter c.base (consultations (c.performed xs)) ∧
      ∀ us q vs, c.performed xs = us ++ q :: vs →
        q.1.top.session.state = stateAfter c.base (consultations us) := by
  induction xs generalizing c with
  | nil => exact ⟨(List.append_nil _).symm, rfl, by simp [performed]⟩
  | cons x xs ih =>
    cases ha : c.admits x with
    | false =>
      rw [List.foldl_cons, performed, x.tasks_of_refused ha, x.enter_of_refused ha]
      exact ih h
    | true =>
      obtain ⟨r, hr⟩ := performs_of_admits h ha
      obtain ⟨hcalls, hbase, htasks⟩ := hr.consults h ha
      obtain ⟨hcalls', hbase', htasks'⟩ := ih (h.enter x)
      rw [hbase] at hcalls' hbase' htasks'
      rw [List.foldl_cons, performed, consultations_append, calls_append, stateAfter_append,
        hcalls', hcalls, List.append_assoc]
      refine ⟨rfl, hbase', fun us q vs hq => ?_⟩
      -- The task is one of the first call, or comes after all of them.
      rcases List.append_eq_append_iff.1 hq with ⟨us', rfl, hus⟩ | ⟨vs', htask, hvs⟩
      · rw [consultations_append, stateAfter_append]
        exact htasks' us' q vs hus
      · rcases List.cons_eq_append_iff.1 hvs with ⟨rfl, hvs⟩ | ⟨vs'', rfl, -⟩
        · rw [List.append_nil] at htask
          rw [← htask]
          exact htasks' [] q vs hvs.symm
        · exact htasks us q vs'' htask

/-! ### Before the start -/

/-- What is called of a conversation before it is started changes nothing. -/
theorem foldl_of_not_started (h : c.IsIntact) (xs : List Entry)
    (hs : (xs.foldl Conversation.enter c).started = false) :
    xs.foldl Conversation.enter c = c ∧ c.performed xs = [] := by
  induction xs generalizing c with
  | nil => exact ⟨rfl, rfl⟩
  | cons x xs ih =>
    rw [List.foldl_cons] at hs ⊢
    obtain ⟨hc, hp⟩ := ih (h.enter x) hs
    cases ha : c.admits x with
    | false =>
      rw [x.enter_of_refused ha] at hc hp
      rw [performed, x.tasks_of_refused ha, x.enter_of_refused ha]
      exact ⟨hc, hp⟩
    | true =>
      obtain ⟨r, hr⟩ := performs_of_admits h ha
      rw [hc, hr.started] at hs
      cases hs

/-- Its state is empty. -/
theorem state_ofBlueprint {b : Blueprint} {root id : String} {frontEnd : Option FrontEnd}
    {state : Value} (h : ofBlueprint b root frontEnd state id = .ok c) : c.state = [] := by
  obtain ⟨top, initial, hbuild, -, rfl⟩ := ofBlueprint_eq_ok_iff.1 h
  obtain ⟨hnew, -, m, cs, rfl, -⟩ := Blueprint.build_ok hbuild
  have hlink : m.link = .free := (hnew (a := []) rfl).1
  have hstate : m.state = [] := (Blueprint.build_isSoleOwner hbuild).2
  simp [Conversation.state, Scene.stateFor, Scene.owner, Scene.ownerOf, Scene.superior,
    Scene.manager?, Scene.ofElement, Element.link, hlink, hstate]

/-! ### Histories -/

variable {b : Blueprint} {root id : String} {frontEnd : Option FrontEnd} {state : Value}
  {ks : List Consultation}

/-- In a conversation over a built flow, after any requests, let `ks` be the
    consultations of all tasks that have been performed:

    * the consultation at each position is noted with the state that those before it
      leave, beginning with the state that the conversation has been given, and no
      other is noted;
    * what those leave is the state of the session at a task, in which all transforms
      are computed, if they are the consultations of the tasks before it;
    * what all of them leave is the state of the conversation once it has been
      started; before that nobody is consulted, and its state is empty;
    * consultations keep the keys that are there, in their places;
    * the state that has been given stays as it is. -/
theorem state_of_consultations (h : ofBlueprint b root frontEnd state id = .ok c₀)
    (rs : List Request) (hc : c = c₀.afterAll rs)
    (hks : ks = consultations (c₀.performed (c₀.entries rs))) :
    (∀ i, c.scene.calls[i]? = ks[i]?.map fun (k : Consultation) =>
      k.call (stateAfter c₀.initial (ks.take i))) ∧
    (∀ us s t vs, c₀.performed (c₀.entries rs) = us ++ (s, t) :: vs →
      s.top.session.state = stateAfter c₀.initial (consultations us) ∧
      ∃ o, t.Step s.top o ∧ t.step.Yields s o.result (o.scene s)) ∧
    (c.started = true → c.state = stateAfter c₀.initial ks) ∧
    (c.started = false → c.state = [] ∧ ks = []) ∧
    (∀ i j, i ≤ j → (stateAfter c₀.initial (ks.take i)).keys <+:
      (stateAfter c₀.initial (ks.take j)).keys) ∧
    Mapping.ofValue state = .ok c₀.initial ∧ c.initial = c₀.initial := by
  obtain ⟨hfresh, -⟩ := ofBlueprint_ok h
  have hintact : c₀.IsIntact := .inl hfresh
  obtain ⟨hcalls, hbase, htasks⟩ := hintact.consults (c₀.entries rs)
  -- Nothing has been called yet, so the consultations begin with the state that has been given.
  have hground : c₀.base = c₀.initial := by rw [base, hfresh.started, if_neg Bool.false_ne_true]
  have hnone : c₀.scene.calls = [] := by
    obtain ⟨top, initial, -, -, rfl⟩ := ofBlueprint_eq_ok_iff.1 h
    rfl
  have hgiven : Mapping.ofValue state = .ok c₀.initial := by
    obtain ⟨top, initial, -, hinitial, rfl⟩ := ofBlueprint_eq_ok_iff.1 h
    exact hinitial
  rw [hground, ← hks, ← afterAll_eq_foldl, ← hc] at hcalls hbase
  refine ⟨fun i => ?_, fun us s t vs hq => ⟨?_, ?_⟩, fun hs => ?_, fun hs => ?_, fun i j hij => ?_,
    hgiven, ?_⟩
  · rw [hcalls, hnone, List.nil_append, getElem?_calls]
  · rw [← hground]
    exact htasks us (s, t) vs hq
  · have hmem : (s, t) ∈ c₀.performed (c₀.entries rs) := by simp [hq]
    exact Task.step_spec (hintact.fits hmem)
  · rw [← hbase, base, hs, if_pos rfl]
  · rw [hc, afterAll_eq_foldl] at hs ⊢
    obtain ⟨hsame, hp⟩ := foldl_of_not_started hintact _ hs
    rw [hsame, hks, hp]
    exact ⟨state_ofBlueprint h, rfl⟩
  · obtain ⟨d, rfl⟩ := Nat.exists_eq_add_of_le hij
    rw [List.take_add, stateAfter_append]
    exact keys_prefix_stateAfter _ _
  · rw [hc, afterAll_eq_foldl, initial_foldl hintact]

end Conversation

/-- A manager over one leaf, which asks a question and notes the answer. -/
def Blueprint.noting : Blueprint :=
  ⟨[.leaf "ask"
      { reply := fun input _ => .ok (.decision (.finish [(.text "answer", input.getD .null)])) }
      none (some ⟨some (.text "Well?"), .identity⟩),
    .manager "main" ["ask"] "ask" none ""]⟩

namespace Conversation

theorem state_of_noting : ∃ c₀ c k,
    ofBlueprint .noting "main" (some .recording) (.record [(.text "name", .text "Ada")]) "c" =
      .ok c₀ ∧
      c = c₀.afterAll [.start 5, .deliver 5 (.text "Fine.")] ∧ c.started = true ∧
      c.state = stateAfter c₀.initial [k] ∧
      k.next c₀.initial = c₀.initial.merge [(.text "answer", .text "Fine.")] := by
  have h : ofBlueprint .noting "main" (some .recording)
    (.record [(.text "name", .text "Ada")]) "c" = .ok _ := rfl
  obtain ⟨-, -, hstate, -⟩ :=
    state_of_consultations h [.start 5, .deliver 5 (.text "Fine.")] rfl rfl
  exact ⟨_, _, _, h, rfl, rfl, hstate rfl, next_of_record rfl rfl⟩

/-- Before the start the state is not yet what has been given. -/
theorem state_before_start : ¬∀ (b : Blueprint) (root id : String) (frontEnd : Option FrontEnd)
    (state : Value) (c₀ : Conversation) (rs : List Request),
    ofBlueprint b root frontEnd state id = .ok c₀ →
      (c₀.afterAll rs).state =
        stateAfter c₀.initial (consultations (c₀.performed (c₀.entries rs))) := by
  intro hall
  have h := hall .single "main" "c" (some .recording) (.record [(.text "name", .text "Ada")]) _
    [.deliver 5 (.text "x")] rfl
  have hempty : [] = [(Value.text "name", Value.text "Ada")] := h
  cases hempty

end Conversation

end Parley

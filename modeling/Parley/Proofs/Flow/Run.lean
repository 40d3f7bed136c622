import Parley.Proofs.Flow.Course

/-!
# Runs of a traversal

A run performs one task after the other (`Task.Runs`), and the machine performs
these runs (`Task.run_spec`). What holds of every step holds of the run, by
induction on it. Where a part of a run matters, `Task.Leads` follows the machine
through it from scene to scene, and `Task.Leads.run_eq` says what is left.

A turn is a run that begins with the execution of the flow, or with an input that
the flow waits for (`Task.Begins`). It ends with a question, with the end of the
session or with a failure (`Task.Runs.ending`).
-/

namespace Parley

open Element

/-- The tasks that a run performs, each in its scene. -/
def Task.trace : (limit : Nat) → Task → Scene → List (Scene × Task)
  | 0, _, _ => []
  | limit + 1, t, s =>
    (s, t) :: match t.step s with
      | (.ok (some next), s') => next.trace limit s'
      | _ => []

/-- What a run comes to: the tasks it has performed, each with the flow as it was
    then, its result, the flow, and the events and the calls that it adds. -/
structure Course where
  tasks : List (Element × Task)
  result : Except Fault Unit
  top : Element
  events : List Event
  calls : List Call

def Course.scene (c : Course) (s : Scene) : Scene :=
  { s with top := c.top, events := s.events ++ c.events, calls := s.calls ++ c.calls }

/-- The runs of a traversal. -/
inductive Task.Runs : (limit : Nat) → Element → Task → Course → Prop
  | endless {e : Element} {t : Task} : Runs 0 e t ⟨[], .error .endless, e, [], []⟩
  | failed {n : Nat} {e : Element} {t : Task} {o : Outcome} {cause : Fault} :
      t.Step e o → o.result = .error cause →
      Runs (n + 1) e t ⟨[(e, t)], .error cause, o.top, o.events, o.calls⟩
  | settled {n : Nat} {e : Element} {t : Task} {o : Outcome} :
      t.Step e o → o.result = .ok none →
      Runs (n + 1) e t ⟨[(e, t)], .ok (), o.top, o.events, o.calls⟩
  | next {n : Nat} {e : Element} {t t' : Task} {o : Outcome} {c : Course} :
      t.Step e o → o.result = .ok (some t') → Runs n o.top t' c →
      Runs (n + 1) e t
        ⟨(e, t) :: c.tasks, c.result, c.top, o.events ++ c.events, o.calls ++ c.calls⟩

variable {s : Scene} {e : Element} {t : Task} {n : Nat} {c : Course} {a : Address} {v : Value}

namespace Task

theorem run_succ : t.run (n + 1) s =
    match t.step s with
    | (.ok none, s') => (.ok (), s')
    | (.ok (some next), s') => next.run n s'
    | (.error cause, s') => (.error cause, s') := by
  rw [run, bind_apply]
  rcases t.step s with ⟨(_ | _ | next), s'⟩ <;> rfl

/-- The machine performs the runs of the relation. -/
theorem run_spec (h : t.Fits s.top) : ∃ c, t.Runs n s.top c ∧
    (∃ log, t.run n s = (c.result, { c.scene s with log := log })) ∧
    (t.trace n s).map (fun x => (x.1.top, x.2)) = c.tasks := by
  induction n generalizing s t with
  | zero => exact ⟨_, .endless, ⟨s.log, by simp [run, Course.scene]; rfl⟩, rfl⟩
  | succ n ih =>
    obtain ⟨o, hs, hy⟩ := step_spec h
    obtain ⟨log, hstep⟩ := hy s.log
    have hrun := run_succ (t := t) (n := n) (s := s)
    rw [hstep] at hrun
    rw [trace, hstep]
    cases ho : o.result with
    | error cause =>
      rw [ho] at hrun
      exact ⟨_, .failed hs ho, ⟨log, hrun⟩, rfl⟩
    | ok next =>
      cases next with
      | none =>
        rw [ho] at hrun
        exact ⟨_, .settled hs ho, ⟨log, hrun⟩, rfl⟩
      | some t' =>
        rw [ho] at hrun
        let s' : Scene := { o.scene s with log := log }
        obtain ⟨c, hc, ⟨log', hr⟩, ht⟩ := ih (s := s') (hs.fits h ho)
        refine ⟨_, .next hs ho hc, ⟨log', hrun.trans (hr.trans ?_)⟩, ?_⟩
        · simp [Course.scene, Outcome.scene, s']
        · simp only [List.map_cons]
          exact congrArg _ ht

/-- The machine performs the task and those that follow from it, one after the other,
    and comes with the last of them to a result and a scene. -/
inductive Leads : Task → Scene → List Task → Except Fault (Option Task) → Scene → Prop
  | last {t : Task} {s s' : Scene} {r : Except Fault (Option Task)} :
      t.step s = (r, s') → Leads t s [t] r s'
  | next {t t' : Task} {s s₁ s' : Scene} {ts : List Task} {r : Except Fault (Option Task)} :
      t.step s = (.ok (some t'), s₁) → Leads t' s₁ ts r s' → Leads t s (t :: ts) r s'

theorem Leads.append {t' : Task} {s₁ s' : Scene} {ts ts' : List Task}
    {r : Except Fault (Option Task)} (h : t.Leads s ts (.ok (some t')) s₁)
    (h' : t'.Leads s₁ ts' r s') : t.Leads s (ts ++ ts') r s' := by
  generalize hr : (Except.ok (some t') : Except Fault (Option Task)) = r₁ at h
  induction h with
  | last h =>
    subst hr
    exact .next h h'
  | next h _ ih => exact .next h (ih h' hr)

theorem Leads.concat {t' : Task} {s₁ s' : Scene} {ts : List Task}
    {r : Except Fault (Option Task)} (h : t.Leads s ts (.ok (some t')) s₁)
    (hs : t'.step s₁ = (r, s')) : t.Leads s (ts ++ [t']) r s' :=
  h.append (.last hs)

/-- What every step preserves holds at the task that the machine comes to. -/
theorem Leads.preserves {I : Element → Task → Prop} {t' : Task} {s' : Scene} {ts : List Task}
    (h : t.Leads s ts (.ok (some t')) s') (hf : t.Fits s.top) (hi : I s.top t)
    (hstep : ∀ {e t o t'}, t.Fits e → I e t → t.Step e o → o.result = .ok (some t') → I o.top t') :
    t'.Fits s'.top ∧ I s'.top t' := by
  generalize hr : (Except.ok (some t') : Except Fault (Option Task)) = r at h
  induction h with
  | @last t s s₁ _ hs =>
    obtain ⟨o, ho, hy⟩ := step_spec hf
    obtain ⟨log, hy⟩ := hy s.log
    obtain ⟨hres, rfl⟩ := Prod.mk.inj (hs.symm.trans hy)
    exact ⟨ho.fits hf (hres.symm.trans hr.symm), hstep hf hi ho (hres.symm.trans hr.symm)⟩
  | @next t t₁ s s₁ _ _ _ hs _ ih =>
    obtain ⟨o, ho, hy⟩ := step_spec hf
    obtain ⟨log, hy⟩ := hy s.log
    obtain ⟨hres, rfl⟩ := Prod.mk.inj (hs.symm.trans hy)
    exact ih (ho.fits hf hres.symm) (hstep hf hi ho hres.symm) hr

/-- Where nothing is left to do in the course of a turn, a leaf waits for an input that has
    been executed last, or the session is over. -/
theorem Leads.settled {s' : Scene} {ts : List Task} (h : t.Leads s ts (.ok none) s')
    (hi : InFlight s.top t) :
    (∃ a, ts.getLast? = some (.execute a) ∧ s'.top.WaitsAt a) ∨ s'.top.IsOver := by
  generalize hr : (Except.ok none : Except Fault (Option Task)) = r at h
  induction h with
  | @last t s s₁ _ hs =>
    obtain ⟨o, ho, hy⟩ := step_spec hi.fits
    obtain ⟨log, hy⟩ := hy s.log
    obtain ⟨hres, rfl⟩ := Prod.mk.inj (hs.symm.trans hy)
    rcases ho.settled hi (hres.symm.trans hr.symm) with ⟨a, rfl, ha, -⟩ | hover
    · exact .inl ⟨a, rfl, ha⟩
    · exact .inr hover
  | @next t t₁ s s₁ _ _ _ hs _ ih =>
    obtain ⟨o, ho, hy⟩ := step_spec hi.fits
    obtain ⟨log, hy⟩ := hy s.log
    obtain ⟨hres, rfl⟩ := Prod.mk.inj (hs.symm.trans hy)
    rcases ih (ho.inFlight hi hres.symm) hr with ⟨a, hlast, ha⟩ | hover
    · exact .inl ⟨a, by simp [List.getLast?_cons, hlast], ha⟩
    · exact .inr hover

/-- What is left of a run once a task has come to its result. -/
def resume (n : Nat) : Except Fault (Option Task) → Scene → Except Fault Unit × Scene
  | .ok none, s => (.ok (), s)
  | .ok (some t), s => t.run n s
  | .error cause, s => (.error cause, s)

/-- A run with enough tasks left performs what the task leads to, and goes on from there. -/
theorem Leads.run_eq {s' : Scene} {ts : List Task} {r : Except Fault (Option Task)}
    (h : t.Leads s ts r s') (n : Nat) : t.run (ts.length + n) s = resume n r s' := by
  induction h with
  | @last t s s' r hs =>
    rw [List.length_singleton, Nat.add_comm, run_succ, hs]
    rcases r with cause | (_ | t') <;> rfl
  | next hs _ ih => rw [List.length_cons, Nat.add_right_comm, run_succ, hs, ← ih]

/-- What every step preserves holds at every task of a run. -/
theorem Runs.forall_tasks {I : Element → Task → Prop} (hr : t.Runs n e c) (h : I e t)
    (hstep : ∀ {e t o t'}, I e t → t.Step e o → o.result = .ok (some t') → I o.top t') :
    ∀ x ∈ c.tasks, I x.1 x.2 := by
  induction hr with
  | endless => exact nofun
  | failed | settled =>
    intro x hx
    rw [List.mem_singleton.1 hx]
    exact h
  | next hs ho _ ih =>
    intro x hx
    rcases List.mem_cons.1 hx with rfl | hx
    · exact h
    · exact ih (hstep h hs ho) x hx

namespace Runs

/-- The front end of a session stays the same. -/
theorem frontEnd_eq (hr : t.Runs n e c) : c.top.session.frontEnd = e.session.frontEnd := by
  induction hr with
  | endless => rfl
  | failed hs | settled hs => exact hs.frontEnd_eq
  | next hs _ _ ih => exact ih.trans hs.frontEnd_eq

/-- A run leaves the design of the flow as it is. -/
theorem sameDesign (hr : t.Runs n e c) : SameDesign c.top e := by
  induction hr with
  | endless => exact .refl _
  | failed hs | settled hs => exact hs.sameDesign
  | next hs _ _ ih => exact ih.trans hs.sameDesign

/-- The wiring outlasts every run, also one that fails. -/
theorem wired (hr : t.Runs n e c) (h : t.Fits e) : c.top.Wired := by
  induction hr with
  | endless => exact h.wired
  | failed hs | settled hs => exact hs.wired h
  | next hs ho _ ih => exact ih (hs.fits h ho)

/-! ### How a run ends -/

/-- A run that does not fail ends at a question or with the session. -/
theorem settled_cases (hr : t.Runs n e c) (h : InFlight e t) (hc : c.result = .ok ()) :
    (∃ a e', c.tasks.getLast? = some (e', .execute a) ∧ SameSkeleton e' c.top ∧
      c.top.WaitsAt a) ∨ c.top.IsOver := by
  induction hr with
  | endless => cases hc
  | failed => cases hc
  | @settled n e t o hs ho =>
    rcases hs.settled h ho with ⟨a, rfl, ha, hsame⟩ | hover
    · exact .inl ⟨a, e, rfl, hsame, ha⟩
    · exact .inr hover
  | next hs ho _ ih =>
    rcases ih (hs.inFlight h ho) hc with ⟨a, e', he, ha⟩ | hover
    · refine .inl ⟨a, e', ?_, ha⟩
      simp [List.getLast?_cons, he]
    · exact .inr hover

/-- A run that fails leaves the session unsettled, waiting or over, whatever the front end
    takes. -/
theorem failed_cases (hr : t.Runs n e c) (h : InFlight e t) {cause : Fault}
    (hc : c.result = .error cause) :
    c.top.IsUnsettled ∨ (∃ a, c.top.WaitsAt a) ∨ c.top.IsOver := by
  induction hr with
  | endless => exact .inl h.unsettled
  | failed hs ho => exact (hs.failed_cases h ho).imp_right fun ⟨_, _, hleft⟩ => hleft
  | settled => cases hc
  | next hs ho _ ih => exact ih (hs.inFlight h ho) hc

/-- A run that fails leaves the session unsettled, if the front end takes all
    that it is told. -/
theorem isUnsettled_of_error (hr : t.Runs n e c) (h : InFlight e t) (hf : e.session.IsReceptive)
    {cause : Fault} (hc : c.result = .error cause) : c.top.IsUnsettled := by
  induction hr with
  | endless => exact h.unsettled
  | failed hs ho => exact hs.failed h hf ho
  | settled => cases hc
  | next hs ho _ ih => exact ih (hs.inFlight h ho) (hs.isReceptive hf) hc

/-! ### Parts of a run -/

/-- A run that fails has been cut short, or has come to a task with a step that fails. -/
theorem exists_failed (hr : t.Runs n e c) {cause : Fault} (hc : c.result = .error cause) :
    cause = .endless ∨ ∃ q ∈ c.tasks, ∃ o, q.2.Step q.1 o ∧ o.result = .error cause := by
  induction hr with
  | endless =>
    cases hc
    exact .inl rfl
  | failed hs ho =>
    cases hc
    exact .inr ⟨_, List.mem_singleton_self _, _, hs, ho⟩
  | settled => cases hc
  | next _ _ _ ih => exact (ih hc).imp_right fun ⟨q, hq, h⟩ => ⟨q, List.mem_cons_of_mem _ hq, h⟩

/-- From each of its tasks on, a run is one that comes to the same result. -/
theorem exists_rest (hr : t.Runs n e c) {q : Element × Task} (hq : q ∈ c.tasks) :
    ∃ k c', q.2.Runs (k + 1) q.1 c' ∧ c'.result = c.result ∧ c'.top = c.top := by
  induction hr with
  | endless => cases hq
  | failed hs ho =>
    rw [List.mem_singleton.1 hq]
    exact ⟨0, _, .failed hs ho, rfl, rfl⟩
  | settled hs ho =>
    rw [List.mem_singleton.1 hq]
    exact ⟨0, _, .settled hs ho, rfl, rfl⟩
  | next hs ho hrest ih =>
    rcases List.mem_cons.1 hq with rfl | hq
    · exact ⟨_, _, .next hs ho hrest, rfl, rfl⟩
    · exact ih hq

/-! ### Runs of a turn -/

/-- A run that starts with an input that the session waits for goes on below the
    outermost manager. -/
theorem of_waitsAt (hr : (Task.input [] v).Runs (n + 1) e c) (h : e.WaitsAt a) :
    ∃ key c', (Task.input [key] v).Runs n (e.setAwaiting false) c' ∧
      InFlight (e.setAwaiting false) (.input [key] v) ∧
      c = { c' with tasks := (e, .input [] v) :: c'.tasks } := by
  cases hr with
  | failed hs ho | settled hs ho =>
    obtain ⟨key, rfl, -⟩ := hs.accepted_of_waitsAt h
    cases ho
  | next hs ho hr =>
    obtain ⟨key, rfl, hf⟩ := hs.accepted_of_waitsAt h
    cases ho
    exact ⟨key, _, hr, hf, rfl⟩

end Runs

/-- The task begins a turn: to execute the flow, or to hand down an input that the
    session waits for. -/
inductive Begins (e : Element) : Task → Prop
  | execute : InFlight e (.execute []) → Begins e (.execute [])
  | input {a : Address} (v : Value) : e.WaitsAt a → Begins e (.input [] v)

end Task

/-- After the first task of a turn it is under way. -/
theorem Task.Begins.inFlight {t' : Task} {o : Outcome} (h : t.Begins e) (hs : t.Step e o)
    (ho : o.result = .ok (some t')) : InFlight o.top t' := by
  cases h with
  | execute h => exact hs.inFlight h ho
  | input v h =>
    obtain ⟨key, rfl, hf⟩ := hs.accepted_of_waitsAt h
    cases ho
    exact hf

theorem Task.Begins.fits (h : t.Begins e) : t.Fits e := by
  cases h with
  | execute h => exact h.fits
  | input v h => exact InUse.top h.wired

/-- What the first task of a turn leads to is done in the course of the turn. -/
theorem Task.Leads.inFlight {t' : Task} {s' : Scene} {ts : List Task}
    (h : t.Leads s ts (.ok (some t')) s') (hb : t.Begins s.top) : InFlight s'.top t' := by
  obtain ⟨o, ho, hy⟩ := step_spec hb.fits
  obtain ⟨log, hy⟩ := hy s.log
  cases h with
  | last hs =>
    obtain ⟨hres, rfl⟩ := Prod.mk.inj (hs.symm.trans hy)
    exact hb.inFlight ho hres.symm
  | next hs h =>
    obtain ⟨hres, rfl⟩ := Prod.mk.inj (hs.symm.trans hy)
    have hi := hb.inFlight ho hres.symm
    exact (h.preserves (I := InFlight) hi.fits hi fun _ hi hs ho => hs.inFlight hi ho).2

/-- How a turn ends: with a question, with the end of the session, or with a
    failure. -/
inductive Course.Ending (c : Course) : Prop
  | asked {e : Element} {a : Address} : c.result = .ok () →
      c.tasks.getLast? = some (e, .execute a) → SameSkeleton e c.top → c.top.WaitsAt a → Ending c
  | ended : c.result = .ok () → c.top.IsOver → Ending c
  | failed {cause : Fault} : c.result = .error cause → c.top.Wired → Ending c

namespace Task.Runs

theorem ending_of_inFlight (hr : t.Runs n e c) (h : InFlight e t) : c.Ending := by
  cases hc : c.result with
  | error cause => exact .failed hc (hr.wired h.fits)
  | ok =>
    rcases hr.settled_cases h hc with ⟨a, e', ht, hsame, ha⟩ | ho
    · exact .asked hc ht hsame ha
    · exact .ended hc ho

theorem ending (hr : t.Runs (n + 1) e c) (h : t.Begins e) : c.Ending := by
  cases h with
  | execute h => exact hr.ending_of_inFlight h
  | input v h =>
    obtain ⟨key, c', hr', hf, rfl⟩ := hr.of_waitsAt h
    cases hr'.ending_of_inFlight hf with
    | @asked e' a hc ht hsame ha =>
      have ht' : ((e, Task.input [] v) :: c'.tasks).getLast? = some (e', .execute a) := by
        simp [List.getLast?_cons, ht]
      exact .asked hc ht' hsame ha
    | ended hc ho => exact .ended hc ho
    | failed hc hw => exact .failed hc hw

/-- A turn that fails leaves the session unsettled, waiting or over, whatever the front end
    takes. -/
theorem failed_cases_of_begins (hr : t.Runs (n + 1) e c) (h : t.Begins e) {cause : Fault}
    (hc : c.result = .error cause) :
    c.top.IsUnsettled ∨ (∃ a, c.top.WaitsAt a) ∨ c.top.IsOver := by
  cases h with
  | execute h => exact hr.failed_cases h hc
  | input v h =>
    obtain ⟨key, c', hr', hfl, rfl⟩ := hr.of_waitsAt h
    exact hr'.failed_cases hfl hc

/-- A turn that fails leaves the session unsettled, if the front end takes all
    that it is told. -/
theorem isUnsettled (hr : t.Runs (n + 1) e c) (h : t.Begins e) (hf : e.session.IsReceptive)
    {cause : Fault} (hc : c.result = .error cause) : c.top.IsUnsettled := by
  cases h with
  | execute h => exact hr.isUnsettled_of_error h hf hc
  | input v h =>
    obtain ⟨key, c', hr', hfl, rfl⟩ := hr.of_waitsAt h
    exact hr'.isUnsettled_of_error hfl (hf.setAwaiting false) hc

end Task.Runs

end Parley

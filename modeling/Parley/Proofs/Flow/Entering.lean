import Parley.Proofs.Flow.Determined

/-!
# Entering a flow

A manager that moves to a child executes it, and so the managers at the cursors below
it, down to a leaf. Since a manager moves only when all below it are back at their
roots, that is the leaf which is found by following the roots (`Element.StartsAt`),
whether the child has been entered before or not:

* `Task.Leads.descend`: to execute a manager below which all cursors are at their roots
  leads to the leaf that it starts at;
* `Task.exists_leads_of_move`: so does to move to a child.

Only the outermost manager keeps its cursor when it closes. So at the end of a session
the managers below it are back at their roots (`Task.Runs.rewoundBelow_of_finished`).
-/

namespace Parley

open Element

variable {e e' : Element} {a b p : Address} {key : String} {m : Manager} {keys : List String}
  {t t' : Task} {o : Outcome} {n : Nat} {c : Course} {s s₀ : Scene} {ts : List Task}
  {target : Value}

namespace Element

/-- What is at the first address starts at the leaf at the second one, which is found by
    following the roots of the managers. -/
inductive StartsAt (e : Element) : Address → Address → Prop
  | leaf {a : Address} {l : Leaf} : e.part? a = some (.leaf l) → StartsAt e a a
  | manager {a b : Address} {m : Manager} {keys : List String} :
      e.part? a = some (.manager m keys) → StartsAt e (m.root :: a) b → StartsAt e a b

/-- Where a flow starts is a matter of design. -/
theorem StartsAt.of_sameDesign (h : e.StartsAt a b) (hs : SameDesign e e') : e'.StartsAt a b := by
  induction h with
  | leaf hl =>
    obtain ⟨q, hq, hd⟩ := hs.exists_part hl
    cases q with
    | leaf l => exact .leaf hq
    | manager => cases hd
  | @manager a b m keys hm _ ih =>
    obtain ⟨q, hq, hd⟩ := hs.exists_part hm
    cases q with
    | leaf => cases hd
    | manager m' keys' =>
      have hroot := congrArg Manager.root (Part.manager.inj hd).1
      change m'.root = m.root at hroot
      exact .manager hq (hroot ▸ ih)

/-- What is on the way to the active leaf is on the active path. -/
theorem IsAimed.isActive_iff (h : e.IsAimed) : e.IsActive a ↔ a <:+ e.activePath.reverse := by
  obtain ⟨hact, l, hl⟩ := h.exists_leaf
  refine ⟨fun ha => ha.suffix_leaf hact hl, ?_⟩
  rintro ⟨c, hc⟩
  exact IsActive.of_append (a := c) (hc ▸ hact)

end Element

/-! ### Down to a leaf -/

namespace Element

/-- Below what is in use there is an active leaf. -/
theorem InUse.exists_leaf (h : e.InUse a) :
    ∃ d l, e.IsActive (d ++ a) ∧ e.part? (d ++ a) = some (.leaf l) := by
  obtain ⟨hact, l, hl⟩ := h.wired.aimed.exists_leaf
  obtain ⟨d, hd⟩ := h.active.suffix_leaf hact hl
  exact ⟨d, l, hd ▸ hact, hd ▸ hl⟩

/-- Where all cursors are at their roots, an element starts at its active leaf. -/
theorem StartsAt.of_isActive {d : Address} {l : Leaf} (hact : e.IsActive (d ++ a))
    (hl : e.part? (d ++ a) = some (.leaf l))
    (hr : ∀ ⦃c m keys⦄, e.part? (c ++ a) = some (.manager m keys) → m.cursor = some m.root) :
    e.StartsAt a (d ++ a) := by
  -- The way down begins at the end of the address.
  induction d using List.reverseRecOn generalizing a with
  | nil => exact .leaf hl
  | append_singleton d key ih =>
    rw [List.append_assoc, List.singleton_append] at hact hl ⊢
    obtain ⟨-, m, keys, hm, hc⟩ := hact.of_append
    obtain rfl := Option.some.inj (hc.symm.trans (hr (c := []) hm))
    refine .manager hm (ih hact hl fun c m' keys' hp => ?_)
    rw [List.append_cons] at hp
    exact hr hp

end Element

namespace Task

/-- In a session that is not over, a manager in use executes the child at its cursor. -/
theorem step_execute_eq (hu : s.top.InUse a) (hf : s.top.session.finished = false)
    (hm : s.top.part? a = some (.manager m keys)) (hc : m.cursor = some key) :
    ∃ log, (Task.execute a).step s = (.ok (some (.execute (key :: a))), { s with log := log }) := by
  obtain ⟨log, hstep⟩ := step_eq (t := .execute a) hu (.entered hm hc fun ha => by
    subst ha
    rwa [← session_eq hm])
  exact ⟨log, by simpa [Outcome.scene] using hstep⟩

/-- A manager below the outermost one hands an input down to the child at its cursor. -/
theorem step_input_eq {v : Value} (ha : a ≠ []) (hu : s.top.InUse a)
    (hm : s.top.part? a = some (.manager m keys)) (hc : m.cursor = some key) :
    ∃ log, (Task.input a v).step s = (.ok (some (.input (key :: a) v)), { s with log := log }) := by
  obtain ⟨k, p, rfl⟩ := List.exists_cons_of_ne_nil ha
  obtain ⟨log, hstep⟩ := step_eq (t := .input (k :: p) v) hu (.handed hm hc)
  exact ⟨log, by simpa [Outcome.scene] using hstep⟩

/-- What goes from each manager on the way to the child at its cursor, and leaves the scene as
    it is, goes down to the active leaf. -/
theorem Leads.descend {f : Address → Task} {d : Address}
    (h : t.Leads s₀ ts (.ok (some (f a))) s) (hact : s.top.IsActive (d ++ a))
    (hdown : ∀ (log : List LogEntry) ⦃c m keys key⦄, a <:+ c → s.top.IsActive (key :: c) →
      s.top.part? c = some (.manager m keys) → m.cursor = some key →
      ∃ log', (f c).step { s with log := log } =
        (.ok (some (f (key :: c))), { s with log := log' })) :
    ∃ ts' log, t.Leads s₀ (ts ++ ts') (.ok (some (f (d ++ a)))) { s with log := log } ∧
      ts'.length = d.length ∧
      ∀ t' ∈ ts', ∃ c m keys, t' = f c ∧ s.top.part? c = some (.manager m keys) := by
  suffices ∀ (log : List LogEntry), t.Leads s₀ ts (.ok (some (f a))) { s with log := log } →
      ∃ ts' log, t.Leads s₀ (ts ++ ts') (.ok (some (f (d ++ a)))) { s with log := log } ∧
        ts'.length = d.length ∧
        ∀ t' ∈ ts', ∃ c m keys, t' = f c ∧ s.top.part? c = some (.manager m keys) from
    this s.log h
  clear h
  intro log h
  -- The way down begins at its last key, since addresses grow at the front.
  induction d using List.reverseRecOn generalizing a ts log with
  | nil => exact ⟨[], log, by rwa [List.append_nil], rfl, List.forall_mem_nil _⟩
  | append_singleton d key ih =>
    rw [List.append_assoc, List.singleton_append] at hact ⊢
    obtain ⟨-, m, keys, hm, hc⟩ := hact.of_append
    obtain ⟨log₁, hstep⟩ := hdown log List.suffix_rfl hact.of_append hm hc
    obtain ⟨ts', log', hleads, hlen, hall⟩ := ih hact
      (fun log c m keys key hs => hdown log ((List.suffix_cons _ a).trans hs)) log₁ (h.concat hstep)
    rw [List.append_assoc] at hleads
    refine ⟨f a :: ts', log', hleads, by simp [hlen], ?_⟩
    exact List.forall_mem_cons.2 ⟨⟨a, m, keys, rfl, hm⟩, hall⟩

/-- To execute the flow when all cursors are at their roots leads to the leaf at which it
    starts. -/
theorem exists_leads_of_execute (hw : s.top.Wired) (hf : s.top.session.finished = false)
    (hr : ∀ ⦃c m keys⦄, s.top.part? c = some (.manager m keys) → m.cursor = some m.root) :
    ∃ ts b l log, s.top.StartsAt [] b ∧ s.top.IsActive b ∧ s.top.part? b = some (.leaf l) ∧
      (Task.execute []).Leads s ts (.ok (some (.execute b))) { s with log := log } ∧
      ts.length = b.length := by
  have hu := InUse.top hw
  obtain ⟨m, keys, hm, -⟩ := hw.outermost
  obtain ⟨key, -, hc⟩ := hw.aimed hm
  obtain ⟨log, hstep⟩ := step_execute_eq hu hf hm hc
  obtain ⟨d, l, hact, hl⟩ := (hu.child hm hc).exists_leaf
  obtain ⟨ts, log', hleads, hlen, -⟩ := (Leads.last hstep).descend (f := .execute) hact
    fun log c m' keys' key' _ hact' hm' hc' =>
      step_execute_eq (s := { s with log := log }) ⟨hw, hact'.1, Option.isSome_of_mem hm'⟩
        hf hm' hc'
  rw [List.append_cons] at hact hl
  refine ⟨_, d ++ [key], l, log', ?_, by simpa using hact, by simpa using hl,
    by simpa using hleads, by simp [hlen]⟩
  simpa using StartsAt.of_isActive (a := []) hact hl fun c m keys hp => hr hp

/-- An input that the session waits for leads to the active leaf. -/
theorem exists_leads_of_input (hw : s.top.Wired) (hf : s.top.session.finished = false)
    (hawait : s.top.session.awaiting = true) (v : Value) :
    ∃ ts b l log, s.top.IsActive b ∧ s.top.part? b = some (.leaf l) ∧
      (Task.input [] v).Leads s ts (.ok (some (.input b v)))
        { s with top := s.top.setAwaiting false, log := log } ∧ ts.length = b.length := by
  have hu := InUse.top hw
  obtain ⟨m, keys, hm, -⟩ := hw.outermost
  obtain ⟨key, -, hc⟩ := hw.aimed hm
  have hse := session_eq hm
  obtain ⟨log, hstep⟩ := step_eq (t := .input [] v) hu
    (.accepted hm (hse ▸ hf) (hse ▸ hawait) hc)
  obtain ⟨d, l, hact, hl⟩ := (hu.child hm hc).exists_leaf
  let s₁ : Scene := { s with top := s.top.setAwaiting false, log := log }
  have hstep' : (Task.input [] v).step s = (.ok (some (.input [key] v)), s₁) := by
    simpa [Outcome.scene] using hstep
  have hsame : SameSkeleton s.top s₁.top := (sameSkeleton_setAwaiting false).symm
  obtain ⟨ts, log', hleads, hlen, -⟩ := (Leads.last hstep').descend (f := (.input · v))
    (hsame.isActive hact) fun log c m' keys' key' hs hact' hm' hc' =>
      step_input_eq (s := { s₁ with log := log }) (by rintro rfl; simp at hs)
        ⟨hw.of_sameSkeleton hsame, hact'.1, Option.isSome_of_mem hm'⟩ hm' hc'
  exact ⟨_, _, l, log', hact, hl, hleads, by simp [hlen]⟩

/-- A manager that moves holds the target. -/
theorem exists_child_of_move {s₁ : Scene} (hfit : (Task.move p target).Fits s.top)
    (hstep : (Task.move p target).step s = (.ok (some t), s₁)) :
    ∃ key m keys, target = .text key ∧ s.top.part? p = some (.manager m keys) ∧ key ∈ keys := by
  obtain ⟨o, hs, hy⟩ := step_spec hfit
  obtain ⟨log, ho⟩ := hy s.log
  rw [show (Task.move p target).step s = _ from ho] at hstep
  cases hs with
  | strayed => cases hstep
  | moved hm hk => exact ⟨_, _, _, rfl, hm, hk⟩

/-- All managers from the child down that a manager moves to are at their roots. -/
theorem rewound_moveTo {m' : Manager} {keys' : List String} (ha : e.IsActive p)
    (hm : e.part? p = some (.manager m keys)) (hr : e.RewoundBelow p) {c : Address}
    (hp : (e.moveTo p key).part? (c ++ key :: p) = some (.manager m' keys')) :
    m'.cursor = some m'.root := by
  rcases Wired.manager_moveTo_cases ha hm hr hp with ⟨hself, -⟩ | ⟨-, hc, -⟩ | ⟨-, -, hp⟩
  · have hlen := congrArg List.length hself
    simp at hlen
    omega
  · exact hc
  · rw [List.append_cons] at hp
    exact hr (by simp) hp

/-- To move to a child leads to the leaf at which the child starts. Each manager on the way is
    executed once, from the one that moves on, and nothing else happens. -/
theorem exists_leads_to_child (hfit : (Task.move p (.text key)).Fits s.top)
    (hf : s.top.session.finished = false) (hm : s.top.part? p = some (.manager m keys))
    (hk : key ∈ keys) : ∃ ts b l log, s.top.StartsAt (key :: p) b ∧
      (Task.move p (.text key)).Leads s (.move p (.text key) :: ts) (.ok (some (.execute b)))
        { s with top := s.top.moveTo p key, log := log } ∧
      (s.top.moveTo p key).part? b = some (.leaf l) ∧ ts.length + p.length = b.length ∧
      ∀ t ∈ ts, ∃ a m keys, t = .execute a ∧
        (s.top.moveTo p key).part? a = some (.manager m keys) := by
  obtain ⟨log, hstep⟩ := step_eq hfit (.moved hm hk)
  let s₁ : Scene := { s with top := s.top.moveTo p key, log := log }
  have hu : s₁.top.InUse p := Step.fits hfit (.moved hm hk) rfl
  have hstep' : (Task.move p (.text key)).step s = (.ok (some (.execute p)), s₁) := by
    simpa [Outcome.scene] using hstep
  -- The way down goes through the child, and from there on along the roots.
  obtain ⟨d, l, hact, hl⟩ := (hu.child (part?_moveTo_self hm) rfl).exists_leaf
  have hstart := StartsAt.of_isActive hact hl fun _ _ _ => rewound_moveTo hfit.1.active hm hfit.2.1
  rw [List.append_cons] at hact hl hstart
  obtain ⟨ts, log', hleads, hlen, hall⟩ := (Leads.last hstep').descend (f := .execute) hact
    fun log c m' keys' key' _ hact' hm' hc' =>
      step_execute_eq (s := { s₁ with log := log }) ⟨hu.wired, hact'.1, Option.isSome_of_mem hm'⟩
        (finished_moveTo.trans hf) hm' hc'
  refine ⟨ts, _, l, log', hstart.of_sameDesign sameDesign_moveTo, hleads, hl, ?_, hall⟩
  simp [hlen, Nat.add_assoc, Nat.add_comm p.length]

/-- To move to a child leads to the leaf at which the child starts, past managers only. -/
theorem exists_leads_of_move {s₁ : Scene} (hfit : (Task.move p target).Fits s.top)
    (hf : s.top.session.finished = false)
    (hstep : (Task.move p target).step s = (.ok (some t), s₁)) :
    ∃ key ts b l s', target = .text key ∧ s.top.StartsAt (key :: p) b ∧
      (Task.move p target).Leads s (.move p target :: ts) (.ok (some (.execute b))) s' ∧
      s'.top.part? b = some (.leaf l) ∧
      ∀ t ∈ ts, ∃ a m keys, t = .execute a ∧ s'.top.part? a = some (.manager m keys) := by
  obtain ⟨key, m, keys, rfl, hm, hk⟩ := exists_child_of_move hfit hstep
  obtain ⟨ts, b, l, log, hb, hleads, hl, -, hall⟩ := exists_leads_to_child hfit hf hm hk
  exact ⟨key, ts, b, l, _, rfl, hb, hleads, hl, hall⟩

/-! ### Back at the roots -/

namespace Step

/-- As long as there is a next task the session is not over. -/
theorem unfinished (hs : t.Step e o) (hf : e.session.finished = false)
    (ho : o.result = .ok (some t')) : o.top.session.finished = false := by
  cases hs with
  | passed | decided | accepted | moved | closed => simpa using hf
  | entered | handed => exact hf
  | asked _ _ _ ha => cases ha <;> cases ho
  | _ => cases ho

/-- The session is over when the outermost manager closes, with all managers below it
    back at their roots. -/
theorem rewoundBelow_of_finished (hs : t.Step e o) (h : t.Fits e)
    (hf : e.session.finished = false) (ho : o.top.session.finished = true) :
    o.top.RewoundBelow [] := by
  cases hs with
  | ended | endRefused =>
    exact h.2.1.of_sameSkeleton (sameSkeleton_setFinished.trans (sameSkeleton_setState _)).symm
  | _ => simp [hf] at ho

end Step

/-- So they are at the end of a run that ends the session. -/
theorem Runs.rewoundBelow_of_finished (hr : t.Runs n e c) (h : t.Fits e)
    (hf : e.session.finished = false) (hc : c.top.session.finished = true) :
    c.top.RewoundBelow [] := by
  induction hr with
  | endless =>
    rw [hf] at hc
    cases hc
  | failed hs | settled hs => exact hs.rewoundBelow_of_finished h hf hc
  | next hs ho _ ih => exact ih (hs.fits h ho) (hs.unfinished hf ho) hc

end Task

end Parley

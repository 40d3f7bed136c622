import Mathlib.Data.List.Induction
import Parley.Proofs.Flow.Run

/-!
# Who is consulted in a turn

An input that is handed down goes to the active leaf: its decider is the first to
be consulted, with the input and the state of the session
(`Task.Runs.calls_of_input`). All others that are consulted in the same turn get
no input, as a manager does, or an empty one, as a leaf does that has asked
nothing (`Task.Runs.isIdle_of_mem`).
-/

namespace Parley

open Element

/-- A consultation without an input, or with an empty one. -/
def Call.IsIdle (c : Call) : Prop :=
  c.input = none ∨ c.input = some .null

/-- The task hands down an empty input, if any. -/
def Task.IsIdle (t : Task) : Prop :=
  ∀ a v, t = .input a v → v = .null

variable {e : Element} {t t' : Task} {o : Outcome} {n : Nat} {c : Course} {a b p : Address}
  {key : String} {v : Value} {l : Leaf}

theorem Decision.task_isIdle (d : Decision) : (d.task p).IsIdle := by
  unfold task
  split <;> exact nofun

namespace Task

namespace Step

theorem isIdle (hs : t.Step e o) (h : t.IsIdle) (ho : o.result = .ok (some t')) : t'.IsIdle := by
  cases hs with
  | passed =>
    cases ho
    rintro a v ⟨⟩
    rfl
  | asked _ _ _ ha => cases ha <;> cases ho
  | accepted =>
    cases ho
    rintro a v ⟨⟩
    exact h _ _ rfl
  | handed =>
    cases ho
    rintro a v ⟨⟩
    exact h _ _ rfl
  -- A decision asks for no input.
  | decided | closed =>
    cases ho
    exact Decision.task_isIdle _
  | entered | moved =>
    cases ho
    exact nofun
  | _ => cases ho

theorem isIdle_of_mem (hs : t.Step e o) (h : t.IsIdle) : ∀ call ∈ o.calls, call.IsIdle := by
  have hmanager (m : Manager) : ∀ call ∈ m.consultations e.session.state, call.IsIdle := by
    unfold Manager.consultations
    cases m.decider with
    | none => simp
    | some d => simp [Call.IsIdle]
  cases hs with
  | undecided | unmerged | unnamed | decided =>
    intro call hc
    rw [List.mem_singleton.1 hc]
    exact .inr (congrArg some (h _ _ rfl))
  | closeUndecided | closeUnmerged | closeUnnamed | closed | ended | endRefused | routedOutside =>
    exact hmanager _
  | _ => exact fun _ hc => absurd hc List.not_mem_nil

end Step

namespace Runs

/-- Without an input nobody gets one. -/
theorem isIdle_of_mem (hr : t.Runs n e c) (h : t.IsIdle) : ∀ call ∈ c.calls, call.IsIdle := by
  induction hr with
  | endless => exact nofun
  | failed hs | settled hs => exact hs.isIdle_of_mem h
  | next hs ho _ ih =>
    intro call hc
    rcases List.mem_append.1 hc with hc | hc
    · exact hs.isIdle_of_mem h call hc
    · exact ih (hs.isIdle h ho) call hc

end Runs

namespace Step

/-- A leaf consults its decider on the input. -/
theorem calls_of_leaf (hs : (Task.input a v).Step e o) (ha : a ≠ [])
    (hl : e.part? a = some (.leaf l)) :
    o.calls = [⟨l.name, l.decider.label, some v, e.session.state⟩] ∧
      ∀ t', o.result = .ok (some t') → t'.IsIdle := by
  cases hs with
  | undecided hl' | unmerged hl' | unnamed hl' =>
    rw [hl] at hl'
    cases hl'
    exact ⟨rfl, nofun⟩
  | decided hl' =>
    rw [hl] at hl'
    cases hl'
    refine ⟨rfl, fun t' ht => ?_⟩
    cases ht
    exact Decision.task_isIdle _
  | handed hm =>
    rw [hl] at hm
    cases hm
  | _ => exact absurd rfl ha

/-- A manager hands its input down to the child at its cursor. -/
theorem eq_of_manager {m : Manager} {keys : List String} (hs : (Task.input a v).Step e o)
    (ha : a ≠ []) (hm : e.part? a = some (.manager m keys)) (hk : m.cursor = some key) :
    o = ⟨.ok (some (.input (key :: a) v)), e, [], []⟩ := by
  cases hs with
  | undecided hl | unmerged hl | unnamed hl | decided hl =>
    rw [hm] at hl
    cases hl
  | handed hm' hk' =>
    rw [hm] at hm'
    cases hm'
    rw [hk] at hk'
    cases hk'
    rfl
  | _ => exact absurd rfl ha

end Step

namespace Runs

/-- An input goes down to the active leaf, whose decider is consulted on it. After
    it nobody gets one. The run may be too short to get there. -/
theorem calls_of_input {d : Address} (hr : (Task.input a v).Runs n e c) (ha : a ≠ [])
    (hd : e.IsActive (d ++ a)) (hl : e.part? (d ++ a) = some (.leaf l)) :
    (n ≤ d.length ∧ c.result = .error .endless) ∨
      ∃ rest, c.calls = ⟨l.name, l.decider.label, some v, e.session.state⟩ :: rest ∧
        ∀ call ∈ rest, call.IsIdle := by
  -- Down the way `d` from the address of the task to the leaf, its last key first.
  induction d using List.reverseRecOn generalizing a n c with
  | nil =>
    cases hr with
    | endless => exact .inl ⟨Nat.zero_le _, rfl⟩
    | failed hs | settled hs => exact .inr ⟨[], (hs.calls_of_leaf ha hl).1, nofun⟩
    | next hs ho hr =>
      obtain ⟨hc, hi⟩ := hs.calls_of_leaf ha hl
      rw [hc]
      exact .inr ⟨_, rfl, hr.isIdle_of_mem (hi _ ho)⟩
  | append_singleton d key ih =>
    rw [List.append_assoc, List.singleton_append] at hd hl
    rw [List.length_append, List.length_singleton]
    obtain ⟨-, m, keys, hm, hk⟩ := hd.of_append
    cases hr with
    | endless => exact .inl ⟨Nat.zero_le _, rfl⟩
    | failed hs ho | settled hs ho =>
      rw [hs.eq_of_manager ha hm hk] at ho
      cases ho
    | @next n _ _ _ _ c hs ho hr =>
      rw [hs.eq_of_manager ha hm hk] at ho hr ⊢
      cases ho
      exact (ih (c := c) hr (List.cons_ne_nil key a) hd hl).imp_left (.imp_left Nat.succ_le_succ)

/-- An input that the session waits for goes to the leaf that has asked for it, if
    the tasks suffice to get there. -/
theorem calls_of_waitsAt (hr : (Task.input [] v).Runs (n + 1) e c) (h : e.WaitsAt a)
    (hl : e.part? a = some (.leaf l)) :
    (n < a.length ∧ c.result = .error .endless) ∨
      ∃ rest, c.calls = ⟨l.name, l.decider.label, some v, e.session.state⟩ :: rest ∧
        ∀ call ∈ rest, call.IsIdle := by
  obtain ⟨key, c', hr', hf, rfl⟩ := hr.of_waitsAt h
  have hsame : SameSkeleton e (e.setAwaiting false) := (sameSkeleton_setAwaiting false).symm
  have hl' : (e.setAwaiting false).part? a = some (.leaf l) := (leaf_mapManager (a := [])).2 hl
  have hact : (e.setAwaiting false).IsActive a := hsame.isActive h.active
  have hkey : (e.setAwaiting false).IsActive [key] := InUse.active hf.fits
  -- The leaf is below the child that gets the input first.
  obtain ⟨d, rfl⟩ := hkey.suffix_leaf hact hl'
  have hcalls := hr'.calls_of_input (List.cons_ne_nil key []) hact hl'
  rw [h.wired.session_setAwaiting] at hcalls
  rw [List.length_append, List.length_singleton, Nat.lt_succ_iff]
  exact hcalls

end Runs

end Task

end Parley

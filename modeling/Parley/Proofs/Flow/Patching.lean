import Parley.Proofs.Flow.Run
import Parley.Proofs.Value.Writing

/-!
# Patches in order

A run consults deciders one after the other (`Consultation`). Each of them is handed
the state that the one before has left, which is the state before it with its patch
merged (`Consultation.next`), or the same state if it has failed. So the calls of a
run, and the state of the session at each of its tasks and at its end, follow from
the state at its beginning and from who is consulted:

* `Task.Step.consults`: a step consults one decider at most, and leaves the state
  that it leaves;
* `Task.Runs.consults`: a run is the fold of its consultations, at every task and in
  the end.

A merge removes no key and moves none (`Mapping.keys_prefix_merge`), and as long as all
keys are texts it does not fail (`Merges.of_isTextual`): texts can be put in order and
written, as the log demands (`Mapping.IsTextual.exists_keysLiteral`).
-/

namespace Parley

open Element

/-! ### Keys -/

namespace Mapping

variable {m merged : Mapping} {patch : Value} {keys : List Value}

theorem keys_prefix_insert (m : Mapping) (key value : Value) :
    m.keys <+: (m.insert key value).keys := by
  induction m with
  | nil => exact List.nil_prefix
  | cons e m ih =>
    unfold insert
    split
    · exact List.prefix_rfl
    · exact (List.prefix_cons_inj e.1).2 ih

theorem mem_keys_insert {key : String} {value : Value} :
    .text key ∈ (m.insert (.text key) value).keys := by
  induction m with
  | nil => exact List.mem_singleton_self _
  | cons e m ih =>
    unfold insert
    split
    · rename_i h
      rw [Value.sameKey_text_iff.1 h]
      exact List.mem_cons_self
    · exact List.mem_cons_of_mem _ ih

/-- A merge leaves the keys where they are, and appends others. -/
theorem keys_prefix_merge (m patch : Mapping) : m.keys <+: (m.merge patch).keys := by
  induction patch generalizing m with
  | nil => exact List.prefix_rfl
  | cons e patch ih => exact (keys_prefix_insert m e.1 e.2).trans (ih _)

theorem keys_prefix_mergeValue (h : m.mergeValue patch = .ok merged) : m.keys <+: merged.keys := by
  unfold mergeValue at h
  split at h
  · cases he : entries patch with
    | error cause => simp [he, Except.map] at h
    | ok es =>
      simp only [he, Except.map, Except.ok.injEq] at h
      exact h ▸ keys_prefix_merge m es
  · cases h
    exact List.prefix_rfl

/-- All keys are texts. -/
def IsTextual (m : Mapping) : Prop :=
  ∀ e ∈ m, ∃ key, e.1 = .text key

theorem IsTextual.insert (h : m.IsTextual) (key : String) (value : Value) :
    (m.insert (.text key) value).IsTextual := by
  induction m with
  | nil => exact fun e he => ⟨key, by rw [List.mem_singleton.1 he]⟩
  | cons e m ih =>
    obtain ⟨he, hm⟩ := List.forall_mem_cons.1 h
    unfold Mapping.insert
    split
    · exact List.forall_mem_cons.2 ⟨he, hm⟩
    · exact List.forall_mem_cons.2 ⟨he, ih hm⟩

theorem IsTextual.merge {es : Mapping} (h : m.IsTextual) (hes : es.IsTextual) :
    (m.merge es).IsTextual := by
  induction es generalizing m with
  | nil => exact h
  | cons e es ih =>
    obtain ⟨⟨key, he⟩, hes⟩ := List.forall_mem_cons.1 hes
    rw [merge_cons, he]
    exact ih (h.insert key e.2) hes

/-- Texts can be put in order. -/
theorem IsTextual.exists_sortedKeys (h : m.IsTextual) : ∃ keys, m.sortedKeys = .ok keys := by
  have hkey : ∀ k ∈ m.keys, ∃ key, k = .text key := fun k hk => by
    obtain ⟨e, he, rfl⟩ := List.mem_map.1 hk
    exact h e he
  rw [sortedKeys, if_pos]
  · exact ⟨_, rfl⟩
  · refine List.all_eq_true.2 fun a ha => List.all_eq_true.2 fun b hb => ?_
    obtain ⟨s, rfl⟩ := hkey a ha
    obtain ⟨t, rfl⟩ := hkey b hb
    simp [Value.keyLess?, Value.keyForm?, Value.KeyForm.less?]

theorem IsTextual.isWritable_of_mem (h : m.IsTextual) : ∀ k ∈ m.keys, k.isWritable = true := by
  intro k hk
  obtain ⟨e, he, rfl⟩ := List.mem_map.1 hk
  obtain ⟨key, hkey⟩ := h e he
  rw [hkey, Value.isWritable_text]

theorem IsTextual.exists_keysLiteral (h : m.IsTextual) : ∃ s, m.keysLiteral = .ok s := by
  obtain ⟨keys, hkeys⟩ := h.exists_sortedKeys
  exact ⟨_, keysLiteral_of_isWritable hkeys h.isWritable_of_mem⟩

end Mapping

/-- What the decision hands over has textual keys only, if it hands over anything. -/
def Decision.IsTextual (d : Decision) : Prop :=
  d.patch.isTruthy = false ∨ ∃ es : Mapping, d.patch = .record es ∧ es.IsTextual

/-- Into a state with textual keys it can be merged, and they stay so. -/
theorem Merges.of_isTextual {state state' : Mapping} {d : Decision} {r : Except Fault Unit}
    (h : Merges state d.patch r state') (hs : state.IsTextual) (hd : d.IsTextual) :
    r = .ok () ∧ state'.IsTextual := by
  rcases hd with hfalse | ⟨es, hes, htext⟩
  · cases h with
    | nothing => exact ⟨rfl, hs⟩
    | refused ht | unlisted ht | merged ht =>
      rw [hfalse] at ht
      cases ht
  · rw [hes] at h
    have hmerge (ht : (Value.record es).isTruthy = true) :
        state.mergeValue (.record es) = .ok (state.merge es) := by
      rw [Mapping.mergeValue, if_pos ht]
      rfl
    -- Textual keys can be listed, so the merge does not fail in the end.
    obtain ⟨keys, hkeys⟩ := (hs.merge htext).exists_keysLiteral
    cases h with
    | nothing => exact ⟨rfl, hs⟩
    | refused ht hm =>
      rw [hmerge ht] at hm
      cases hm
    | unlisted ht hm hk =>
      rw [hmerge ht] at hm
      cases hm
      rw [hkeys] at hk
      cases hk
    | merged ht hm =>
      rw [hmerge ht] at hm
      cases hm
      exact ⟨rfl, hs.merge htext⟩

/-! ### Consultations -/

/-- Who is consulted, and on what input; the state is left open. -/
structure Consultation where
  element : String
  decider : Decider
  input : Option Value

namespace Consultation

variable {k : Consultation} {ks ks' : List Consultation} {s s' : Mapping} {d : Decision}
  {r : Except Fault Unit} {cause : Fault}

def decision (k : Consultation) (s : Mapping) : Except Fault Decision :=
  k.decider.decision k.input s

/-- How the consultation is noted. -/
def call (k : Consultation) (s : Mapping) : Call :=
  ⟨k.element, k.decider.label, k.input, s⟩

/-- The state that a consultation leaves: with the patch of its decision merged, and
    as it was if there is no decision, or no patch that can be merged. -/
def next (k : Consultation) (s : Mapping) : Mapping :=
  match k.decision s with
  | .error _ => s
  | .ok d =>
    match s.mergeValue d.patch with
    | .error _ => s
    | .ok merged => merged

/-- The state that consultations leave, one after the other. -/
def stateAfter (s : Mapping) (ks : List Consultation) : Mapping :=
  ks.foldl (fun s k => k.next s) s

/-- How they are noted, each with the state that it finds. -/
def calls : Mapping → List Consultation → List Call
  | _, [] => []
  | s, k :: ks => k.call s :: calls (k.next s) ks

@[simp] theorem stateAfter_nil : stateAfter s [] = s := rfl

@[simp] theorem stateAfter_cons : stateAfter s (k :: ks) = stateAfter (k.next s) ks := rfl

theorem stateAfter_append : stateAfter s (ks ++ ks') = stateAfter (stateAfter s ks) ks' :=
  List.foldl_append

@[simp] theorem calls_nil : calls s [] = [] := rfl

theorem calls_append : calls s (ks ++ ks') = calls s ks ++ calls (stateAfter s ks) ks' := by
  induction ks generalizing s with
  | nil => rfl
  | cons k ks ih => exact congrArg _ ih

/-- A consultation finds the state that those before it leave. -/
theorem getElem?_calls (s : Mapping) (ks : List Consultation) (i : Nat) :
    (calls s ks)[i]? = ks[i]?.map fun k => k.call (stateAfter s (ks.take i)) := by
  induction ks generalizing s i with
  | nil => simp
  | cons k ks ih =>
    cases i with
    | zero => rfl
    | succ i => simpa [calls] using ih (k.next s) i

/-- A consultation that fails leaves the state. -/
theorem next_of_error (h : k.decision s = .error cause) : k.next s = s := by
  rw [next, h]

/-- One that succeeds leaves the state with the patch merged. -/
theorem next_of_record {es : Mapping} (h : k.decision s = .ok d) (hd : d.patch = .record es) :
    k.next s = s.merge es := by
  have hm : s.mergeValue (.record es) = .ok (s.merge es) := by
    cases es <;> rfl
  simp only [next, h, hd, hm]

/-- What merging makes of the state is what the consultation leaves. -/
theorem next_of_merges (h : k.decision s = .ok d) (hm : Merges s d.patch r s') :
    k.next s = s' := by
  rw [next, h]
  cases hm with
  | nothing hp => simp [Mapping.mergeValue, hp]
  | refused _ he => simp [he]
  | unlisted _ he | merged _ he => simp [he]

/-- A consultation keeps the keys in their places. -/
theorem keys_prefix_next (k : Consultation) (s : Mapping) : s.keys <+: (k.next s).keys := by
  unfold next
  split
  · exact List.prefix_rfl
  · split
    · exact List.prefix_rfl
    · exact Mapping.keys_prefix_mergeValue ‹_›

theorem keys_prefix_stateAfter (s : Mapping) (ks : List Consultation) :
    s.keys <+: (stateAfter s ks).keys := by
  induction ks generalizing s with
  | nil => exact List.prefix_rfl
  | cons k ks ih => exact (k.keys_prefix_next s).trans (ih _)

end Consultation

/-- The consultation that a leaf takes on an input. -/
def Leaf.consultation (l : Leaf) (v : Value) : Consultation :=
  ⟨l.name, l.decider, some v⟩

/-- The consultation that a manager takes to close, if it has a decider. -/
def Manager.consultation? (m : Manager) : Option Consultation :=
  m.decider.map fun d => ⟨m.name, d, none⟩

namespace Task

/-- The consultation that a task takes. -/
def consultation? (e : Element) : Task → Option Consultation
  | .input a v =>
    match e.part? a with
    | some (.leaf l) => some (l.consultation v)
    | _ => none
  | .close a =>
    match e.part? a with
    | some (.manager m _) => m.consultation?
    | _ => none
  | _ => none

/-- The consultations that tasks take, each in its flow. -/
def consultations (ts : List (Element × Task)) : List Consultation :=
  ts.filterMap fun q => q.2.consultation? q.1

theorem consultations_cons (e : Element) (t : Task) (ts : List (Element × Task)) :
    consultations ((e, t) :: ts) = (t.consultation? e).toList ++ consultations ts := by
  unfold consultations
  cases h : t.consultation? e <;> simp [h]

end Task

open Consultation

variable {e : Element} {t : Task} {o : Outcome} {n : Nat} {c : Course} {m : Manager} {d : Decision}
  {s s' : Mapping} {r : Except Fault Unit}

/-! ### Managers -/

theorem Manager.calls_consultation? (m : Manager) (s : Mapping) :
    m.consultations s = calls s m.consultation?.toList := by
  unfold consultations consultation?
  cases m.decider <;> rfl

theorem Manager.stateAfter_of_error {cause : Fault} (h : m.decision s = .error cause) :
    stateAfter s m.consultation?.toList = s := by
  unfold decision at h
  unfold consultation?
  cases hd : m.decider with
  | none => rfl
  | some d =>
    rw [hd] at h
    exact next_of_error h

/-- Without a decider there is nothing to merge. -/
theorem Manager.stateAfter_of_merges (h : m.decision s = .ok d) (hm : Merges s d.patch r s') :
    stateAfter s m.consultation?.toList = s' := by
  unfold decision at h
  unfold consultation?
  cases hd : m.decider with
  | some d =>
    rw [hd] at h
    exact next_of_merges h hm
  | none =>
    rw [hd] at h
    cases h
    cases hm with
    | nothing => rfl
    | refused hp | unlisted hp | merged hp => cases hp

/-! ### Steps and runs -/

namespace Task

/-- A step takes its consultation in the state of the session, and leaves the state
    that the consultation leaves. -/
theorem Step.consults (hf : t.Fits e) (hs : t.Step e o) :
    o.calls = calls e.session.state (t.consultation? e).toList ∧
      o.top.session.state = stateAfter e.session.state (t.consultation? e).toList := by
  have hset (state : Mapping) : (e.setState state).session.state = state := by
    rw [hf.wired.session_setState]
  cases hs with
  | @undecided p key l v cause hl hd =>
    simp only [consultation?, hl]
    exact ⟨rfl, (next_of_error (k := l.consultation v) hd).symm⟩
  | @unmerged p key l v d cause state hl hd hm =>
    simp only [consultation?, hl]
    exact ⟨rfl, (hset state).trans (next_of_merges (k := l.consultation v) hd hm).symm⟩
  | @unnamed p key l v d state hl hd hm | @decided p key l v d state hl hd hm =>
    simp only [consultation?, hl, session_setStatus]
    exact ⟨rfl, (hset state).trans (next_of_merges (k := l.consultation v) hd hm).symm⟩
  | closeUndecided hc hd =>
    simp only [consultation?, hc]
    exact ⟨Manager.calls_consultation? .., (Manager.stateAfter_of_error hd).symm⟩
  | closeUnmerged hc hd hm | closeUnnamed hc hd hm | routedOutside hc hd hm =>
    simp only [consultation?, hc]
    exact ⟨Manager.calls_consultation? .., (hset _).trans (Manager.stateAfter_of_merges hd hm).symm⟩
  | closed hc hd hm =>
    simp only [consultation?, hc, state_setCursor]
    exact ⟨Manager.calls_consultation? .., (hset _).trans (Manager.stateAfter_of_merges hd hm).symm⟩
  | ended hc hd hm | endRefused hc hd hm =>
    simp only [consultation?, hc, state_setFinished]
    exact ⟨Manager.calls_consultation? .., (hset _).trans (Manager.stateAfter_of_merges hd hm).symm⟩
  -- An input that is handed down, or refused, is one to a manager.
  | refusedEnded hm | refusedUnasked hm | accepted hm | handed hm => simp [consultation?, hm]
  | _ => simp [consultation?]

/-- A run is the fold of its consultations: so are its calls, the state at each of its
    tasks, and the state in the end. -/
theorem Runs.consults (hr : t.Runs n e c) (hf : t.Fits e) :
    c.calls = calls e.session.state (consultations c.tasks) ∧
      c.top.session.state = stateAfter e.session.state (consultations c.tasks) ∧
      ∀ xs q ys, c.tasks = xs ++ q :: ys →
        q.1.session.state = stateAfter e.session.state (consultations xs) := by
  induction hr with
  | endless => exact ⟨rfl, rfl, by simp⟩
  | failed hs | settled hs =>
    obtain ⟨hcalls, hstate⟩ := hs.consults hf
    rw [consultations_cons, show consultations [] = [] from rfl, List.append_nil]
    refine ⟨hcalls, hstate, fun xs q ys hq => ?_⟩
    -- The only task is the first.
    rcases List.cons_eq_append_iff.1 hq with ⟨rfl, hhead⟩ | ⟨xs', -, hnil⟩
    · cases hhead
      rfl
    · simp at hnil
  | @next n e t t' o c hs ho _ ih =>
    obtain ⟨hcalls, hstate⟩ := hs.consults hf
    obtain ⟨hrest, htop, htasks⟩ := ih (hs.fits hf ho)
    rw [hstate] at hrest htop htasks
    rw [consultations_cons, calls_append, stateAfter_append, hcalls, hrest]
    refine ⟨rfl, htop, fun xs q ys hq => ?_⟩
    -- A task of the rest has those before it there, and the first.
    rcases List.cons_eq_append_iff.1 hq with ⟨rfl, hhead⟩ | ⟨xs', rfl, htail⟩
    · cases hhead
      rfl
    · rw [consultations_cons, stateAfter_append]
      exact htasks xs' q ys htail

end Task

end Parley

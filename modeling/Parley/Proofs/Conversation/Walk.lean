import Parley.Proofs.Conversation.Restart
import Parley.Proofs.Flow.Walk

/-!
# Calls as walks

A call that is taken comes to a leaf: to start a conversation executes the leaf at which the
flow starts, and an input goes to the active leaf (`Entry.Reaches`). From there on it is a
walk, in the state that the conversation has (`Conversation.exists_isTaken`). A call that
allows enough tasks ends as its walk stops (`Walk.IsTaken.turn_eq`).
-/

namespace Parley

open Element

/-- What an entry comes to: the execution of a leaf, or an input to one. -/
inductive Entry.Reaches (c : Conversation) : Entry → Task → Prop
  | start {limit : Nat} {b : Address} :
      c.opened.StartsAt [] b → Reaches c (.start limit) (.execute b)
  | deliver {limit : Nat} {v : Value} {a : Address} {l : Leaf} :
      c.scene.top.IsActive a → c.scene.top.part? a = some (.leaf l) →
      Reaches c (.deliver limit v) (.input a v)

/-- How a call ends. -/
def Stop.outcome : Stop → Except Fault Unit
  | .failed cause => .error cause
  | _ => .ok ()

theorem Stop.resume_eq (stop : Stop) (n : Nat) (s : Scene) :
    Task.resume n stop.result s = (stop.outcome, s) := by
  cases stop <;> rfl

/-- A call that allows as many tasks as the walk takes ends as the walk stops. -/
theorem Walk.IsTaken.turn_eq {w : Walk} {c c' : Conversation} {x : Entry} {ts : List Task}
    {s' : Scene} (h : w.IsTaken x.first c'.scene ts s') (hg : x.gate c = (.ok x.first, c'))
    (hlimit : ts.length ≤ x.limit) :
    ∃ log, x.turn c = (w.stop.outcome, { c' with scene := { s' with log := log } }) := by
  obtain ⟨log, ht⟩ := x.turn_of_gate_ok hg
  obtain ⟨n, hn⟩ := Nat.exists_eq_add_of_le hlimit
  rw [hn, h.leads.run_eq, w.stop.resume_eq] at ht
  exact ⟨log, ht⟩

namespace Conversation

variable {c c₀ : Conversation} {x : Entry} {e : Element} {n : Nat} {log : List LogEntry}

/-- The front end of an intact conversation. -/
theorem frontEnd_flowFor (h : c.IsIntact) (hs : c.started = true → c.IsStarted)
    (ha : c.admits x = true) : (c.flowFor x).session.frontEnd = c.frontEnd := by
  cases x with
  | start limit =>
    rcases h with h | ⟨h, -⟩
    · obtain ⟨m, keys, hm⟩ := h.outermost
      exact frontEnd_opened hm
    · simp [admits, h] at ha
  | deliver limit v =>
    simp only [admits, accepts, Bool.and_eq_true] at ha
    exact (hs ha.1.1).frontEnd

/-- Every call finds the flow as it has been built, with the front end that the conversation
    has. -/
theorem IsFresh.enacts (h : c₀.IsFresh) (xs : List Entry)
    (ha : (xs.foldl enter c₀).admits x = true) :
    ((xs.foldl enter c₀).flowFor x).Enacts c₀.opened := by
  have hintact : IsIntact (xs.foldl enter c₀) := IsIntact.foldl (.inl h) xs
  have hfront : (xs.foldl enter c₀).IsIntact ∧ (xs.foldl enter c₀).frontEnd = c₀.frontEnd ∧
      ((xs.foldl enter c₀).started = true → (xs.foldl enter c₀).IsStarted) := by
    refine foldl_enter (P := fun c => c.IsIntact ∧ c.frontEnd = c₀.frontEnd ∧
      (c.started = true → c.IsStarted)) ?_ ⟨.inl h, rfl, fun hs => ?_⟩ xs
    · intro c x ⟨hi, hf, hs⟩ ha
      obtain ⟨r, hr⟩ := performs_of_admits hi ha
      refine ⟨hi.enter x, hr.frontEnd_enter.trans hf, fun _ => ⟨hr.started, ?_⟩⟩
      rw [hr.top, hr.runs.frontEnd_eq, frontEnd_flowFor hi hs ha, hr.frontEnd_enter]
    · rw [h.started] at hs
      cases hs
  have hdesign : SameDesign (xs.foldl enter c₀).scene.top c₀.scene.top :=
    (IsIntact.lasts (.inl h) (lasts_sameDesign _) (.refl _) xs).1
  have hopened : SameDesign c₀.opened c₀.scene.top := sameDesign_flowFor c₀ (.start 0)
  refine ⟨((sameDesign_flowFor _ x).trans hdesign).trans hopened.symm, ?_,
    hintact.unfinished_flowFor ha⟩
  obtain ⟨m, keys, hm⟩ := h.outermost
  rw [frontEnd_flowFor hintact hfront.2.2 ha, hfront.2.1, frontEnd_opened hm]

theorem Calls.enacts {rs : List Request} (hc : c₀.Calls rs c x) (h : c₀.IsFresh)
    (ha : c.admits x = true) : (c.flowFor x).Enacts c₀.opened := by
  obtain ⟨xs, ys, -, rfl⟩ := hc
  exact h.enacts xs ha

/-- An entry that is taken comes to a leaf, by one task for each level on the way. -/
theorem exists_leads_to_leaf (h : c.IsIntact) (ha : c.admits x = true) (log : List LogEntry) :
    ∃ t ts s, x.Reaches c t ∧ (c.flowFor x).InUse t.element ∧
      x.first.Leads (c.taking x log).scene ts (.ok (some t)) s ∧
      s.events = (c.taking x log).scene.events ∧ s.calls = c.scene.calls ∧
      s.top.session.state = (c.flowFor x).session.state ∧ ts.length = t.element.length := by
  have hw : (c.taking x log).scene.top.Wired := wired_flowFor h ha
  have hf : (c.taking x log).scene.top.session.finished = false := h.unfinished_flowFor ha
  cases x with
  | start limit =>
    have hfresh : c.IsFresh := by
      rcases h with h | ⟨h, -⟩
      · exact h
      · simp [admits, h] at ha
    obtain ⟨ts, b, l, log', hb, hact, hl, hleads, hlen⟩ := Task.exists_leads_of_execute hw hf
      fun a m keys hm => ((hfresh.new.furnish _ _).manager_attach hm).2.1
    exact ⟨_, ts, _, .start hb, ⟨hw, hact, Option.isSome_of_mem hl⟩, hleads, rfl, rfl, rfl, hlen⟩
  | deliver limit v =>
    have hawait : (c.taking (.deliver limit v) log).scene.top.session.awaiting = true := by
      simp only [admits, accepts, Bool.and_eq_true] at ha
      rw [← ha.2]
      exact (isAwaiting_eq hw).symm
    obtain ⟨ts, a, l, log', hact, hl, hleads, hlen⟩ := Task.exists_leads_of_input hw hf hawait v
    exact ⟨_, ts, _, .deliver hact hl, ⟨hw, hact, Option.isSome_of_mem hl⟩, hleads, rfl, rfl,
      state_setAwaiting, hlen⟩

/-- The number of tasks that is enough for a call, if no call comes through more than `n` leaves
    of a flow of some height. -/
def tasksFor (height n : Nat) : Nat :=
  height + (2 * height + 3) * (n + 1)

theorem tasksFor_mono {height i j : Nat} (h : i ≤ j) : tasksFor height i ≤ tasksFor height j :=
  Nat.add_le_add_left (Nat.mul_le_mul_left _ (Nat.succ_le_succ h)) _

/-- A call that is taken makes the machine take the walk from the leaf that the call comes to.
    In the course of a session that goes well the walk stops where the session waits or is
    over. -/
theorem exists_isTaken (h : c.IsIntact) (ha : c.admits x = true) (he : (c.flowFor x).Enacts e)
    (hn : ∀ a, (e.part? a).isSome → a.length ≤ n) : ∃ t log, x.Reaches c t ∧
      x.gate c = (.ok x.first, c.taking x log) ∧
      ∀ w, e.Walks t (c.flowFor x).session.state w → ∃ ts s,
        w.IsTaken x.first (c.taking x log).scene ts s ∧
        ts.length < tasksFor n w.leaves.length ∧
        (x.first.Begins (c.flowFor x) →
          (∀ a, w.stop = .asked a → s.top.WaitsAt a) ∧ (w.stop = .ended → s.top.IsOver)) := by
  obtain ⟨log, hg⟩ := gate_of_admits h ha
  obtain ⟨t, ts, s, ht, hu, hleads, hevents, hcalls, hstate, hlen⟩ := exists_leads_to_leaf h ha log
  refine ⟨t, log, ht, hg, fun w hw => ?_⟩
  have hfirst : x.first.Fits (c.taking x log).scene.top := by
    cases x <;> exact InUse.top (wired_flowFor h ha)
  obtain ⟨hfits, hs⟩ := hleads.enacts hfirst he
  obtain ⟨ts', s', htaken, -, hlen'⟩ := hw.leads hn hs hfits hstate
  have hheight : t.element.length ≤ n := by
    obtain ⟨q, hq⟩ := Option.isSome_iff_exists.1 hu.isSome
    obtain ⟨q', hq', -⟩ := he.design.exists_part hq
    exact hn _ (Option.isSome_of_mem hq')
  refine ⟨_, s', htaken.cons hleads w.leaves [] [] (by simp [hevents])
    (hcalls.trans (List.append_nil _).symm), by simp [tasksFor]; omega, fun hb => ?_⟩
  have hi : InFlight s.top t := hleads.inFlight hb
  exact ⟨fun a ha => htaken.waitsAt hi ha, fun hend => htaken.isOver hi hend⟩

end Conversation

end Parley

import Mathlib.Algebra.Order.BigOperators.Group.List
import Mathlib.Algebra.Order.Group.Nat
import Parley.Proofs.Flow.Building
import Parley.Proofs.Flow.Walk

/-!
# Termination

A walk goes on only through leaves that ask nothing (`Element.HandsOver`): to climb along the
managers and to go down to a leaf never takes more tasks than the flow has levels. So where
a rank goes down with every leaf that hands over, each walk stops.

* `Element.exists_walks` and `Element.exists_walks_of_input`: there is a walk from every leaf,
  and no more leaves are executed on it than the rank allows;
* `Element.exists_bound`: a flow has finitely many parts, so that there is one bound for all.
-/

namespace Parley

open Element

variable {m : Manager} {e : Element} {a b p : Address} {key : String} {state : Mapping} {v : Value}
  {x : Escalation} {l : Leaf} {k n : Nat}

theorem exists_shows (m : Manager) (output : Option Emitter) :
    ∃ r shown, Shows m output r shown := by
  cases output with
  | none => exact ⟨_, _, .silent⟩
  | some e =>
    cases ht : e.transform m.state e.payload with
    | error cause => exact ⟨_, _, .failed ht⟩
    | ok payload =>
      cases payload with
      | none => exact ⟨_, _, .suppressed ht⟩
      | some p =>
        cases hr : m.reception (.output p) with
        | error cause => exact ⟨_, _, .refused ht hr⟩
        | ok => exact ⟨_, _, .shown ht hr⟩

theorem exists_asks (m : Manager) (e : Emitter) :
    ∃ r asked awaiting, Asks m e r asked awaiting := by
  cases ht : e.transform m.state e.payload with
  | error cause => exact ⟨_, _, _, .failed ht⟩
  | ok payload =>
    cases payload with
    | none => exact ⟨_, _, _, .unasked ht⟩
    | some p =>
      cases hr : m.reception (.expectation p) with
      | error cause => exact ⟨_, _, _, .refused ht hr⟩
      | ok => exact ⟨_, _, _, .asked ht hr⟩

namespace Element

/-- In the state, the first leaf shows its output and asks nothing, and what it decides on the
    empty input leads to the second one. -/
def HandsOver (e : Element) (state : Mapping) (a b : Address) : Prop :=
  ∃ l shown x, e.part? a = some (.leaf l) ∧ l.expectation = none ∧
    Shows (e.sessionIn state) l.output (.ok ()) shown ∧ e.Passes a .null state x ∧
    x.exit.Reaches e b

/-- A function is bounded on the parts of a flow. -/
theorem exists_bound (f : Address → Nat) (e : Element) :
    ∃ n, ∀ a, (e.part? a).isSome → f a ≤ n := by
  induction e using induction_on_children generalizing f with
  | leaf l =>
    refine ⟨f [], fun a ha => ?_⟩
    obtain ⟨p, hp⟩ := Option.isSome_iff_exists.1 ha
    rw [(part?_leaf_eq_some hp).1]
  | manager m cs ih =>
    -- Below each child there is a bound, and their sum bounds what is below any of them.
    have hchild (key : String) : ∃ n, ∀ x, lookup key cs = some x →
        ∀ a, (x.part? a).isSome → f (a ++ [key]) ≤ n := by
      cases hx : lookup key cs with
      | none => exact ⟨0, nofun⟩
      | some x =>
        obtain ⟨n, hn⟩ := ih key x hx fun a => f (a ++ [key])
        exact ⟨n, fun y hy => by cases hy; exact hn⟩
    choose g hg using hchild
    refine ⟨f [] + ((cs.map Prod.fst).map g).sum, fun a ha => ?_⟩
    obtain ⟨p, hp⟩ := Option.isSome_iff_exists.1 ha
    rcases part?_manager_cases hp with ⟨rfl, -⟩ | ⟨key, x, c, rfl, hx, hp⟩
    · exact Nat.le_add_right _ _
    · have hkey : key ∈ cs.map Prod.fst := lookup_isSome_iff.1 (Option.isSome_of_mem hx)
      calc f (c ++ [key]) ≤ g key := hg key x hx c (Option.isSome_of_mem hp)
        _ ≤ ((cs.map Prod.fst).map g).sum := List.le_sum_of_mem (List.mem_map_of_mem hkey)
        _ ≤ _ := Nat.le_add_left _ _

/-! ### Walks exist -/

theorem StartsAt.exists_leaf (h : e.StartsAt a b) : ∃ l, e.part? b = some (.leaf l) := by
  induction h with
  | leaf hl => exact ⟨_, hl⟩
  | manager _ _ ih => exact ih

theorem exists_leaf_of_reaches {exit : Exit} (h : exit.Reaches e b) :
    ∃ l, e.part? b = some (.leaf l) := by
  obtain ⟨p, key, -, -, hb⟩ := h
  exact hb.exists_leaf

/-- Who is to move is a manager. -/
theorem Escalates.exists_mover (h : e.Escalates a state x)
    {target : Value} (hx : x.exit = .moved p target) :
    ∃ m keys, e.part? p = some (.manager m keys) := by
  induction h with
  | routed hm =>
    cases hx
    obtain ⟨m, keys, hm, -⟩ := exists_holder (Option.isSome_of_mem hm)
    exact ⟨m, keys, hm⟩
  | deferred _ _ _ _ _ ih => exact ih hx
  | _ => cases hx

theorem Passes.exists_mover (h : e.Passes a v state x) {target : Value}
    (hx : x.exit = .moved p target) : ∃ m keys, e.part? p = some (.manager m keys) := by
  cases h with
  | moved hl =>
    cases hx
    obtain ⟨m, keys, hm, -⟩ := exists_holder (Option.isSome_of_mem hl)
    exact ⟨m, keys, hm⟩
  | closed _ _ _ _ hesc => exact hesc.exists_mover hx
  | _ => cases hx

/-- A passage halts, or the walk goes on where it leads. -/
theorem exists_walks_of_passes (hw : e.Wired) (hx : e.Passes a v state x)
    (hnext : ∀ b, x.exit.Reaches e b →
      ∃ w, e.Walks (.execute b) x.state w ∧ w.leaves.length ≤ k) :
    ∃ w, e.Walks (.input a v) state w ∧ w.leaves.length ≤ k := by
  rcases x.exit.reaches_or_halts hw fun _ _ => hx.exists_mover with ⟨b, hb⟩ | ⟨stop, events, hh⟩
  · obtain ⟨w, hwalk, hlen⟩ := hnext b hb
    exact ⟨_, .moved hx hb hwalk, hlen⟩
  · exact ⟨_, .halted hx hh, Nat.zero_le k⟩

variable {rank : Address → Nat}

/-- Where the rank goes down with every leaf that hands over, there is a walk from each leaf,
    and each leaf on it has a rank of its own. -/
theorem exists_walks (hw : e.Wired)
    (hrank : ∀ state a b, e.HandsOver state a b → rank b < rank a)
    (hl : e.part? a = some (.leaf l)) (state : Mapping) :
    ∃ w, e.Walks (.execute a) state w ∧ w.leaves.length ≤ rank a + 1 := by
  -- The leaf that is handed over to has a smaller rank, so there is a walk from it.
  induction hk : rank a using Nat.strong_induction_on generalizing a l state with
  | _ k ih =>
    obtain ⟨r, shown, hs⟩ := exists_shows (e.sessionIn state) l.output
    cases r with
    | error cause => exact ⟨_, .unshown hl hs, by simp⟩
    | ok =>
      cases hq : l.expectation with
      | some question =>
        obtain ⟨r, asked, awaiting, ha⟩ := exists_asks (e.sessionIn state) question
        cases r with
        | error cause => exact ⟨_, .unasked hl hs hq ha, by simp⟩
        | ok => exact ⟨_, .asked hl hs hq ha, by simp⟩
      | none =>
        obtain ⟨x, hx⟩ := exists_passes hw hl .null state
        obtain ⟨w, hwalk, hlen⟩ := exists_walks_of_passes (k := k) hw hx fun b hb => by
          have hlt : rank b < k := hk ▸ hrank state _ b ⟨l, shown, x, hl, hq, hs, hx, hb⟩
          obtain ⟨l', hl'⟩ := exists_leaf_of_reaches hb
          obtain ⟨w, hwalk, hlen⟩ := ih _ hlt hl' x.state rfl
          exact ⟨w, hwalk, hlen.trans hlt⟩
        exact ⟨_, .passed hl hs hq hwalk, Nat.succ_le_succ hlen⟩

/-- So there is one from each input to a leaf. -/
theorem exists_walks_of_input (hw : e.Wired)
    (hrank : ∀ state a b, e.HandsOver state a b → rank b < rank a)
    (hn : ∀ a, (e.part? a).isSome → rank a ≤ n) (hl : e.part? a = some (.leaf l)) (v : Value)
    (state : Mapping) : ∃ w, e.Walks (.input a v) state w ∧ w.leaves.length ≤ n + 1 := by
  obtain ⟨x, hx⟩ := exists_passes hw hl v state
  refine exists_walks_of_passes hw hx fun b hb => ?_
  obtain ⟨l', hl'⟩ := exists_leaf_of_reaches hb
  obtain ⟨w, hwalk, hlen⟩ := exists_walks hw hrank hl' x.state
  exact ⟨w, hwalk, hlen.trans (Nat.succ_le_succ (hn b (Option.isSome_of_mem hl')))⟩

end Element

end Parley

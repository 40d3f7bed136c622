import Parley.Proofs.Flow.Building

/-!
# Who owns the session

Every manager has the fields of a session, but only the outermost one uses them:
all below it are *bare* (`Part.IsBare`), which makes the outermost manager the sole
owner (`Element.IsSoleOwner`).

* `Blueprint.build_isSoleOwner`: so it is in a built flow;
* `Task.Step.isSoleOwner`: and every step leaves it so, also one that fails, for
  what it changes below the top are statuses, cursors and links.
-/

namespace Parley

open Element

namespace Part

/-- The part holds nothing of a session: no state, no flag and no front end. -/
def IsBare : Part → Prop
  | .leaf _ => True
  | .manager m _ =>
    m.state = [] ∧ m.awaiting = false ∧ m.finished = false ∧ m.frontEnd = none

variable {p : Part}

theorem IsBare.mapLeaf (h : p.IsBare) (f : Leaf → Leaf) : (p.mapLeaf f).IsBare := by
  cases p <;> exact h

theorem IsBare.setCursor (h : p.IsBare) (cursor : Option String) :
    (p.mapManager fun m => { m with cursor := cursor }).IsBare := by
  cases p <;> exact h

theorem IsBare.attached (h : p.IsBare) (link : Link) : (p.attached link).IsBare := by
  cases p <;> exact h

end Part

namespace Element

variable {e : Element} {a : Address} {key : String} {f : Element → Element}

/-- All below the top are bare. -/
def IsSoleOwner (e : Element) : Prop :=
  ∀ ⦃key a p⦄, e.part? (key :: a) = some p → p.IsBare

/-! ### Changes -/

/-- A change of the outermost manager changes nothing below. -/
theorem IsSoleOwner.mapManager (h : e.IsSoleOwner) (f : Manager → Manager) :
    (e.mapManager f).IsSoleOwner := by
  intro key a p hp
  rw [part?_mapManager_of_ne (List.cons_ne_nil key a)] at hp
  exact h hp

/-- Nor does a change that keeps bare what has been so. -/
theorem IsSoleOwner.modifyAt (h : e.IsSoleOwner)
    (hf : ∀ x b p, (f x).part? b = some p → ∃ q, x.part? b = some q ∧ (q.IsBare → p.IsBare)) :
    (e.modifyAt f a).IsSoleOwner := by
  intro key b p hp
  by_cases hs : a <:+ key :: b
  · obtain ⟨c, hc⟩ := hs
    rw [← hc, part?_modifyAt_append] at hp
    obtain ⟨x, hx, hp⟩ := Option.bind_eq_some_iff.1 hp
    obtain ⟨q, hq, himp⟩ := hf x c p hp
    have hq' : e.part? (key :: b) = some q := by rw [← hc, part?_append, hx, Option.bind_some, hq]
    exact himp (h hq')
  · rw [part?_modifyAt_of_not_suffix hs] at hp
    exact h hp

theorem IsSoleOwner.setStatus (h : e.IsSoleOwner) (status : Status) :
    (e.setStatus a status).IsSoleOwner := by
  refine h.modifyAt fun x b p hp => ?_
  rw [show (x.mapLeaf _).part? b = _ from part?_mapLeaf (a := [])] at hp
  split at hp
  · obtain ⟨q, hq, rfl⟩ := Option.map_eq_some_iff.1 hp
    exact ⟨q, ‹b = []› ▸ hq, fun hbare => hbare.mapLeaf _⟩
  · exact ⟨p, hp, id⟩

theorem IsSoleOwner.setCursor (h : e.IsSoleOwner) : (e.setCursor a key).IsSoleOwner := by
  refine h.modifyAt fun x b p hp => ?_
  rw [part?_mapManager_top] at hp
  split at hp
  · obtain ⟨q, hq, rfl⟩ := Option.map_eq_some_iff.1 hp
    exact ⟨q, ‹b = []› ▸ hq, fun hbare => hbare.setCursor _⟩
  · exact ⟨p, hp, id⟩

/-- Attaching changes links and statuses. -/
theorem exists_bare_of_attach {x : Element} {link : Link} {b : Address} {p : Part}
    (hp : (x.attach link).1.part? b = some p) :
    ∃ q, x.part? b = some q ∧ (q.IsBare → p.IsBare) := by
  obtain ⟨g, hg, hcases⟩ := part?_attach_eq_map link (e := x) b
  rw [hg] at hp
  obtain ⟨q, hq, rfl⟩ := Option.map_eq_some_iff.1 hp
  refine ⟨q, hq, fun hbare => ?_⟩
  rcases hcases with rfl | ⟨link', rfl⟩
  · exact hbare
  · exact hbare.attached link'

theorem IsSoleOwner.attach (h : e.IsSoleOwner) (link : Link) : (e.attach link).1.IsSoleOwner :=
  IsSoleOwner.modifyAt (a := []) (f := fun x => (x.attach link).1) h
    fun _ _ _ => exists_bare_of_attach

theorem IsSoleOwner.moveTo (h : e.IsSoleOwner) : (e.moveTo a key).IsSoleOwner :=
  h.setCursor.modifyAt fun _ _ _ => exists_bare_of_attach

end Element

/-- A step changes nothing of a session below the top. -/
theorem Task.Step.isSoleOwner {e : Element} {t : Task} {o : Outcome} (hs : t.Step e o)
    (h : e.IsSoleOwner) : o.top.IsSoleOwner := by
  cases hs with
  | unshown | passed => exact h.setStatus _
  | asked => exact (h.setStatus _).mapManager _
  | unmerged | closeUnmerged | closeUnnamed | routedOutside | accepted => exact h.mapManager _
  | unnamed | decided => exact (h.mapManager _).setStatus _
  | moved => exact h.moveTo
  | closed => exact (h.mapManager _).setCursor
  | ended | endRefused => exact (h.mapManager _).mapManager _
  | _ => exact h

/-! ### Built flows -/

namespace Blueprint

variable {b : Blueprint} {e : Element} {name : String} {n : Nat}

/-- What is unfolded is bare at every address. -/
theorem unfold_isBare (h : b.unfold n name = .ok e) :
    ∀ a p, e.part? a = some p → p.IsBare := by
  induction n generalizing name e with
  | zero => cases h
  | succ n ih =>
    rw [unfold] at h
    obtain ⟨d, -, h⟩ := ok_of_bind h
    intro a p hp
    rcases d with ⟨name', decider, output, expectation⟩ |
      ⟨name', children, root, decider, description⟩
    · cases h
      obtain ⟨-, rfl⟩ := part?_leaf_eq_some hp
      trivial
    · obtain ⟨cs', hcs, h⟩ := ok_of_bind h
      obtain ⟨-, hall⟩ := unfold_children hcs
      obtain ⟨cs, rfl, -, -, hlookup⟩ := ofChildren_ok h
      rcases part?_manager_cases hp with ⟨-, rfl⟩ | ⟨key, x, c, -, hx, hp⟩
      · exact ⟨rfl, rfl, rfl, rfl⟩
      · -- Each child has been unfolded from its name, with one level less.
        exact ih (hall _ (hlookup key x hx)) c p hp

/-- In a built flow the outermost manager is the sole owner, and has no state yet. -/
theorem build_isSoleOwner {root : String} {frontEnd : Option FrontEnd}
    (h : b.build root frontEnd = .ok e) : e.IsSoleOwner ∧ e.session.state = [] := by
  obtain ⟨-, -, m, cs, rfl, -⟩ := build_ok h
  obtain ⟨_, -, h⟩ := ok_of_bind h
  obtain ⟨x, hx, h⟩ := ok_of_bind h
  have hbare := unfold_isBare hx
  rcases x with l | ⟨m', cs'⟩
  · cases h
  · cases h
    refine ⟨fun key a p hp => ?_, (hbare [] _ rfl).1⟩
    -- The front end is all that the outermost manager has been given.
    have hp' : ((Element.manager m' cs).mapManager fun m =>
        { m with frontEnd := frontEnd }).part? (key :: a) = some p := hp
    rw [part?_mapManager_of_ne (List.cons_ne_nil key a)] at hp'
    exact hbare _ p hp'

/-- A manager over the flow of `single`, and over nothing else. -/
def nested : Blueprint :=
  ⟨single.definitions ++ [.manager "frame" ["main"] "main" none ""]⟩

end Blueprint

end Parley

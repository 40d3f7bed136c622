/-!
# Computations that may fail

What succeeds has done so in all of its parts: a computation and the one after it
(`ok_of_bind`), or the item after item of a list (`forM_eq_ok_iff`). What fails does so
at one of them (`exists_of_forM_error`).
-/

namespace Parley

variable {ε α β : Type}

theorem ok_of_bind {x : Except ε α} {f : α → Except ε β} {y : β} (h : x >>= f = .ok y) :
    ∃ z, x = .ok z ∧ f z = .ok y := by
  cases x with
  | error cause => cases h
  | ok z => exact ⟨z, rfl, h⟩

/-- What comes after a success starts from its result. -/
theorem bind_of_ok {x : Except ε α} {y : α} (h : x = .ok y) (f : α → Except ε β) :
    x >>= f = f y := by
  rw [h]
  rfl

theorem ok_of_map {x : Except ε α} {f : α → β} {y : β} (h : f <$> x = .ok y) :
    ∃ z, x = .ok z ∧ f z = y := by
  cases x with
  | error cause => cases h
  | ok z => exact ⟨z, rfl, Except.ok.inj h⟩

section

variable {f g : α → Except ε Unit} {xs : List α}

theorem forM_eq_ok_iff : xs.forM f = .ok () ↔ ∀ x ∈ xs, f x = .ok () := by
  induction xs with
  | nil => exact iff_of_true rfl nofun
  | cons x xs ih =>
    rw [List.forM, List.forall_mem_cons, ← ih]
    cases f x with
    | error cause => exact iff_of_false nofun fun h => nomatch h.1
    | ok => exact ⟨fun h => ⟨rfl, h⟩, fun h => h.2⟩

theorem exists_of_forM_error {cause : ε} (h : xs.forM f = .error cause) :
    ∃ x ∈ xs, f x = .error cause := by
  induction xs with
  | nil => cases h
  | cons x xs ih =>
    rw [List.forM] at h
    cases hx : f x with
    | error cause' =>
      rw [hx] at h
      cases h
      exact ⟨x, List.mem_cons_self, hx⟩
    | ok =>
      rw [hx] at h
      obtain ⟨y, hy, he⟩ := ih h
      exact ⟨y, List.mem_cons_of_mem x hy, he⟩

/-- To go through a list does not depend on what is done elsewhere. -/
theorem forM_congr (h : ∀ x ∈ xs, f x = g x) : xs.forM f = xs.forM g := by
  induction xs with
  | nil => rfl
  | cons x xs ih =>
    rw [List.forM, List.forM, h x List.mem_cons_self,
      ih fun y hy => h y (List.mem_cons_of_mem x hy)]

end

end Parley

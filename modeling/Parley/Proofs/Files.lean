import Mathlib.Data.List.Sort
import Parley.Files

/-!
# The order in which files are known

Nothing depends on the order in which files are listed, as long as no place is listed twice: a path
leads to the same file (`Files.Reordered.find?_eq`), and the names in a folder are the same, since
they come in the order of their characters, each once (`Files.pairwise_names`,
`Files.Reordered.names_eq`).
-/

namespace Parley.Files

variable {fs fs' : Files} {p : Path}

/-! ### Names -/

/-- What is listed below a place, by the next part of the way there. -/
def below (fs : Files) (place : List String) : List String :=
  fs.entries.filterMap fun e => if place.isPrefixOf e.1 then e.1[place.length]? else none

theorem names_of_place? {place : List String} (h : fs.place? p = some place) :
    fs.names p = (fs.below place).eraseDups.mergeSort fun a b => !(b < a) := by
  rw [names, h]
  rfl

theorem nodup_eraseDups {α : Type} [BEq α] [LawfulBEq α] (xs : List α) : xs.eraseDups.Nodup := by
  match xs with
  | [] => exact .nil
  | x :: xs =>
    rw [List.eraseDups_cons, List.nodup_cons, List.mem_eraseDups]
    exact ⟨by simp, nodup_eraseDups _⟩
termination_by xs.length
decreasing_by exact Nat.lt_succ_of_le (List.length_filter_le _ _)

/-- Names are in the order of their characters, and none is there twice. -/
theorem pairwise_names (fs : Files) (p : Path) : (fs.names p).Pairwise (· < ·) := by
  cases h : fs.place? p with
  | none =>
    rw [names, h]
    exact .nil
  | some place =>
    rw [names_of_place? h]
    have hsorted : ((fs.below place).eraseDups.mergeSort fun a b => !(b < a)).Pairwise
        fun a b => !(b < a) := by
      refine List.pairwise_mergeSort (fun a b c hab hbc => ?_) (fun a b => ?_) _
      · simp only [Bool.not_eq_true', decide_eq_false_iff_not, String.not_lt] at hab hbc ⊢
        exact String.le_trans hab hbc
      · simp only [Bool.or_eq_true, Bool.not_eq_true', decide_eq_false_iff_not, String.not_lt]
        exact String.le_total a b
    have hnodup : ((fs.below place).eraseDups.mergeSort fun a b => !(b < a)).Nodup :=
      (List.mergeSort_perm _ _).nodup_iff.2 (nodup_eraseDups _)
    -- Sorted names do not descend, and as none is there twice they ascend.
    refine (hsorted.and hnodup).imp fun {a b} hab => ?_
    by_contra hlt
    have hle : ¬b < a := by simpa using hab.1
    exact hab.2 (String.le_antisymm (String.not_lt.1 hle) (String.not_lt.1 hlt))

/-! ### Reordering -/

/-- The same files are known in both, in any order, and each place is listed once. -/
structure Reordered (fs fs' : Files) : Prop where
  here : fs.here = fs'.here
  entries : fs.entries.Perm fs'.entries
  places : (fs.entries.map Prod.fst).Nodup

namespace Reordered

/-- Of entries that are listed once each, the one of a place is found in any order. -/
theorem find?_entries {es es' : List (List String × FileEntry)} (hperm : es.Perm es')
    (h : (es.map Prod.fst).Nodup) (place : List String) :
    es.find? (fun e => e.1 = place) = es'.find? fun e => e.1 = place := by
  induction hperm with
  | nil => rfl
  | cons e _ ih => rw [List.find?_cons, List.find?_cons, ih (List.nodup_cons.1 h).2]
  | swap e e' es =>
    have hne : e'.1 ≠ e.1 := fun heq => (List.nodup_cons.1 h).1 (heq ▸ List.mem_cons_self)
    by_cases he : e.1 = place
    · have he' : e'.1 ≠ place := fun he' => hne (he'.trans he.symm)
      simp [he, he']
    · simp [List.find?_cons, he]
  | trans hperm _ ih ih' => exact (ih h).trans (ih' ((hperm.map Prod.fst).nodup_iff.1 h))

theorem at?_eq (h : Reordered fs fs') (place : List String) : fs.at? place = fs'.at? place := by
  rw [at?, at?, find?_entries h.entries h.places, h.here, h.entries.any_eq]

theorem place?_eq (h : Reordered fs fs') (p : Path) : fs.place? p = fs'.place? p := by
  have hfollow : ∀ parts place, fs.follow place parts = fs'.follow place parts := by
    intro parts
    induction parts with
    | nil => exact fun _ => rfl
    | cons part parts ih =>
      intro place
      simp only [follow, h.at?_eq, ih]
  rw [place?, place?, hfollow, start, start, h.here]

theorem find?_eq (h : Reordered fs fs') (p : Path) : fs.find? p = fs'.find? p := by
  rw [find?, find?, h.place?_eq, funext h.at?_eq]

theorem names_eq (h : Reordered fs fs') (p : Path) : fs.names p = fs'.names p := by
  refine List.Pairwise.eq_of_mem_iff (pairwise_names fs p) (pairwise_names fs' p) fun name => ?_
  cases hplace : fs.place? p with
  | none => rw [names, names, ← h.place?_eq, hplace]
  | some place =>
    have hbelow : (fs.below place).Perm (fs'.below place) := h.entries.filterMap _
    rw [names_of_place? hplace, names_of_place? (h.place?_eq p ▸ hplace), List.mem_mergeSort,
      List.mem_mergeSort, List.mem_eraseDups, List.mem_eraseDups]
    exact hbelow.mem_iff

end Reordered

end Parley.Files

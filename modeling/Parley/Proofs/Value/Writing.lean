import Mathlib.Algebra.Group.Int.Defs
import Mathlib.Algebra.Group.Nat.Defs
import Parley.Proofs.Value.Mapping

/-!
# What can be written

Integers can be written below a power of ten (`Text.isWritable_iff`), and other values if all
integers in them can. A mapping of such values stays one (`Mapping.isWritable_insert`). Its keys are
written as the list of them in order, if they can be put in order and each of them can be written
(`Mapping.keysLiteral_eq`).
-/

namespace Parley

namespace Text

theorem isWritable_iff {n : Int} : isWritable n = true ↔ n.natAbs < 10 ^ maxDigits :=
  decide_eq_true_iff.trans (Nat.length_toDigits_le_iff (by decide) (by decide))

theorem isWritable_of_lt {n : Int} (h : n.natAbs < 10) : isWritable n = true := by
  have hle : 10 ^ 1 ≤ 10 ^ maxDigits := Nat.pow_le_pow_right (by decide) (by decide)
  rw [isWritable_iff]
  exact Nat.lt_of_lt_of_le h hle

/-- The least integer that has too many digits. -/
theorem isWritable_ten_pow : isWritable (10 ^ maxDigits) = false := by
  simp [← Bool.not_eq_true, isWritable_iff, Int.natAbs_pow]

end Text

namespace Mapping

variable {m : Mapping} {key v : Value} {keys : List Value}

/-! ### The values of a mapping -/

theorem isWritable_iff : m.isWritable = true ↔ ∀ e ∈ m, e.2.isWritable = true :=
  List.all_eq_true

theorem isWritable_of_find? (hm : m.isWritable = true) (h : m.find? key = some v) :
    v.isWritable = true := by
  obtain ⟨k, -, he⟩ := mem_of_find? h
  exact isWritable_iff.1 hm _ he

theorem isWritable_get (hm : m.isWritable = true) (key : String) :
    (m.get key).isWritable = true := by
  rw [get]
  cases h : m.find? (.text key) with
  | none => rfl
  | some v => exact isWritable_of_find? hm h

theorem isWritable_insert (hm : m.isWritable = true) (hv : v.isWritable = true) :
    (m.insert key v).isWritable = true := by
  induction m with
  | nil => simpa [insert, isWritable] using hv
  | cons e m ih =>
    rw [isWritable_iff, List.forall_mem_cons, ← isWritable_iff] at hm
    rw [insert]
    split
    · exact isWritable_iff.2 (List.forall_mem_cons.2 ⟨hv, isWritable_iff.1 hm.2⟩)
    · exact isWritable_iff.2 (List.forall_mem_cons.2 ⟨hm.1, isWritable_iff.1 (ih hm.2)⟩)

/-! ### Its keys -/

theorem keysLiteral_of_isWritable (h : m.sortedKeys = .ok keys)
    (hw : ∀ k ∈ m.keys, k.isWritable = true) :
    m.keysLiteral = .ok (Value.list keys).quoted := by
  rw [keysLiteral, h]
  exact if_pos (List.all_eq_true.2 hw)

theorem keysLiteral_of_not_isWritable (h : m.sortedKeys = .ok keys)
    (hw : ¬∀ k ∈ m.keys, k.isWritable = true) : m.keysLiteral = .error .digits := by
  rw [keysLiteral, h]
  exact if_neg (mt List.all_eq_true.1 hw)

theorem mem_sortedKeys (h : m.sortedKeys = .ok keys) (k : Value) : k ∈ keys ↔ k ∈ m.keys := by
  unfold sortedKeys at h
  dsimp only at h
  split at h
  · cases h
    simp
  · cases h

/-- The keys are written as the list of them in order: that each of them can be written is seen
    before they are put in order. -/
theorem keysLiteral_eq (m : Mapping) :
    m.keysLiteral = m.sortedKeys >>= fun keys => (Value.list keys).literal := by
  cases h : m.sortedKeys with
  | error cause =>
    rw [keysLiteral, h]
    rfl
  | ok keys =>
    show _ = (Value.list keys).literal
    have hwritable : (Value.list keys).isWritable = true ↔ ∀ k ∈ m.keys, k.isWritable = true := by
      simp only [Value.isWritable, Value.areWritable_iff, mem_sortedKeys h]
    by_cases hw : ∀ k ∈ m.keys, k.isWritable = true
    · rw [keysLiteral_of_isWritable h hw, Value.literal_of_isWritable (hwritable.2 hw)]
    · rw [keysLiteral_of_not_isWritable h hw,
        Value.literal_of_not_isWritable (eq_false_of_ne_true (mt hwritable.1 hw))]

end Mapping

end Parley

import Parley.Value.Basic

/-!
# Keys that are the same

Being the same key is symmetric (`Value.sameKey_comm`), and keys that are the same are the same as
the same keys (`Value.sameKey_congr`), so it is transitive. Each kind of key is compared by
something of which this is known: a number by its quantity, a moment by its time together with
whether its clock is known, and a tuple item by item. No more can be said, since an undefined
number is not the same key as itself, and a list is no key at all.
-/

namespace Parley

namespace Quantity

theorem same_comm (a b : Quantity) : a.same b = b.same a := by
  cases a <;> cases b <;> first | rfl | exact Bool.beq_comm

theorem eq_of_same {a b : Quantity} (h : a.same b) : a = b := by
  cases a <;> cases b <;> first | cases h | exact congrArg _ (eq_of_beq h)

end Quantity

namespace Moment

variable {a b : Moment}

theorem isComparable_comm : a.isComparable b = b.isComparable a :=
  decide_eq_decide.2 eq_comm

theorem isComparable_congr (h : a.isComparable b) (c : Moment) :
    a.isComparable c = b.isComparable c :=
  decide_eq_decide.2 (by rw [of_decide_eq_true h])

end Moment

namespace Value

namespace KeyForm

mutual

theorem same_comm : (a b : KeyForm) → same a b = same b a
  | .tuple as, b => by
    cases b with
    | tuple bs =>
      rw [same, same]
      exact sameAll_comm as bs
    | _ => simp only [same]
  | .quantity q, b => by
    cases b with
    | quantity r =>
      rw [same, same]
      exact q.same_comm r
    | _ => simp only [same]
  | .moment m, b => by
    cases b with
    | moment n =>
      rw [same, same, Moment.isComparable_comm]
      simp only [eq_comm]
    | _ => simp only [same]
  | .text s, b => by
    cases b with
    | text t => simpa only [same] using Bool.beq_comm
    | _ => simp only [same]
  | .date d, b => by
    cases b with
    | date e => simp only [same, eq_comm]
    | _ => simp only [same]
  | .bytes o, b => by
    cases b with
    | bytes p => simpa only [same] using Bool.beq_comm
    | _ => simp only [same]
  | .null, b => by cases b <;> simp only [same]

theorem sameAll_comm : (as bs : List KeyForm) → sameAll as bs = sameAll bs as
  | [], [] => rfl
  | [], _ :: _ => by simp only [sameAll]
  | _ :: _, [] => by simp only [sameAll]
  | a :: as, b :: bs => by rw [sameAll, sameAll, same_comm a b, sameAll_comm as bs]

end

mutual

/-- Forms that are the same are the same as the same forms. -/
theorem same_congr : (a b : KeyForm) → same a b → ∀ c, same a c = same b c
  | .tuple as, b, h, c => by
    -- Only forms of one kind are the same, so `b` is of the kind of the first.
    cases b with
    | tuple bs =>
      rw [same] at h
      cases c with
      | tuple cs => rw [same, same, sameAll_congr as bs h cs]
      | _ => simp only [same]
    | _ => simp only [same, Bool.false_eq_true] at h
  | .quantity q, b, h, c => by
    cases b with
    | quantity r =>
      rw [same] at h
      rw [Quantity.eq_of_same h]
    | _ => simp only [same, Bool.false_eq_true] at h
  | .moment m, b, h, c => by
    cases b with
    | moment n =>
      rw [same, Bool.and_eq_true, decide_eq_true_iff] at h
      cases c with
      | moment o => rw [same, same, Moment.isComparable_congr h.1, h.2]
      | _ => simp only [same]
    | _ => simp only [same, Bool.false_eq_true] at h
  | .text s, b, h, c => by
    cases b with
    | text t => rw [eq_of_beq h]
    | _ => simp only [same, Bool.false_eq_true] at h
  | .date d, b, h, c => by
    cases b with
    | date e => rw [of_decide_eq_true h]
    | _ => simp only [same, Bool.false_eq_true] at h
  | .bytes o, b, h, c => by
    cases b with
    | bytes p => rw [eq_of_beq h]
    | _ => simp only [same, Bool.false_eq_true] at h
  | .null, b, h, c => by
    cases b with
    | null => rfl
    | _ => simp only [same, Bool.false_eq_true] at h

theorem sameAll_congr : (as bs : List KeyForm) → sameAll as bs → ∀ cs, sameAll as cs = sameAll bs cs
  | [], [], _, _ => rfl
  | [], _ :: _, h, _ => by simp only [sameAll, Bool.false_eq_true] at h
  | _ :: _, [], h, _ => by simp only [sameAll, Bool.false_eq_true] at h
  | a :: as, b :: bs, h, cs => by
    rw [sameAll, Bool.and_eq_true] at h
    cases cs with
    | nil => simp only [sameAll]
    | cons c cs => rw [sameAll, sameAll, same_congr a b h.1 c, sameAll_congr as bs h.2 cs]

end

end KeyForm

variable {a b c : Value}

theorem sameKey_comm : a.sameKey b = b.sameKey a := by
  unfold sameKey
  cases a.keyForm? <;> cases b.keyForm? <;> first | rfl | exact KeyForm.same_comm _ _

/-- Keys that are the same are the same as the same keys. -/
theorem sameKey_congr (h : a.sameKey b) (c : Value) : a.sameKey c = b.sameKey c := by
  unfold sameKey at h ⊢
  cases ha : a.keyForm? with
  | none =>
    rw [ha] at h
    cases h
  | some x =>
    cases hb : b.keyForm? with
    | none =>
      rw [ha, hb] at h
      cases h
    | some y =>
      rw [ha, hb] at h
      cases c.keyForm? with
      | none => rfl
      | some z => exact KeyForm.same_congr x y h z

theorem sameKey_trans (h : a.sameKey b) (h' : b.sameKey c) : a.sameKey c :=
  (sameKey_congr h c).trans h'

/-- Octets are the same key as nothing but themselves. -/
theorem sameKey_bytes_iff {v : Value} {octets : List UInt8} :
    v.sameKey (.bytes octets) ↔ v = .bytes octets := by
  cases v with
  | tuple items =>
    rw [sameKey, keyForm?, keyForm?]
    cases keyForms? items <;> simp [KeyForm.same]
  | _ => simp [sameKey, keyForm?, KeyForm.same]

end Value

end Parley

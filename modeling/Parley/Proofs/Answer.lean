import Parley.Answer
import Parley.Proofs.Binary64

/-!
# Answers that are too large

Every answer is read as a number, be it the undefined one, with one exception: a prefix announces
digits of a base, and the natural number that they spell has no finite number near it
(`isTooLarge`). Only that is a misuse (`number_eq_error_iff`).
-/

namespace Parley.Answer

/-- The natural number that the characters spell after the prefix of a base. -/
def prefixedNatural? : List Char → Option Nat
  | '0' :: letter :: cs => (base? letter).bind fun base => natural? base (dropRepeated base cs)
  | _ => none

/-- The answer spells a natural number after a prefix, and that is too large for a finite number. -/
def isTooLarge (s : String) : Bool :=
  (prefixedNatural? (Text.trim s.toList)).any (Binary64.overflow ≤ ·)

theorem prefixed_eq_error_iff (base : Nat) (cs : List Char) (cause : Misuse) :
    prefixed base cs = .error cause ↔
      cause = .overflow ∧ (natural? base (dropRepeated base cs)).any (Binary64.overflow ≤ ·) := by
  unfold prefixed
  cases natural? base (dropRepeated base cs) with
  | none => simp
  | some n =>
    have hfinite := Binary64.ofInt?_natCast_eq_none_iff n
    simp only
    cases hn : Binary64.ofInt? n with
    | none => simp [hfinite.1 hn, eq_comm]
    | some x =>
      have hlt : ¬Binary64.overflow ≤ n := fun hle => by
        rw [hfinite.2 hle] at hn
        cases hn
      simp [hlt]

theorem numberOf_eq_error_iff (cs : List Char) (cause : Misuse) : numberOf cs = .error cause ↔
    cause = .overflow ∧ (prefixedNatural? cs).any (Binary64.overflow ≤ ·) := by
  unfold numberOf
  split
  · simp [prefixedNatural?]
  · rename_i letter cs
    simp only [prefixedNatural?]
    cases base? letter with
    | none => simp
    | some base => exact prefixed_eq_error_iff base cs cause
  · have hnone : prefixedNatural? cs = none := by
      unfold prefixedNatural?
      split
      · rename_i hother
        exact absurd rfl (hother _ _)
      · rfl
    rw [hnone]
    split <;> simp

theorem number_text (s : String) : number (.text s) = numberOf (Text.trim s.toList) :=
  if_neg Bool.false_ne_true

/-- A typed answer is read as a number unless it is too large. -/
theorem number_eq_error_iff (s : String) (cause : Misuse) :
    number (.text s) = .error cause ↔ cause = .overflow ∧ isTooLarge s := by
  rw [number_text]
  exact numberOf_eq_error_iff (Text.trim s.toList) cause

/-! ### An answer that is too large -/

/-- An answer of hexadecimal digits, as many as are given, and all of them the last one. -/
def hexadecimal (n : Nat) : String :=
  String.ofList ('0' :: 'x' :: List.replicate n 'f')

theorem trim_hexadecimal (n : Nat) :
    Text.trim (hexadecimal (n + 1)).toList = '0' :: 'x' :: List.replicate (n + 1) 'f' := by
  have hzero : Text.isBlank '0' = false := by decide
  have hlast : Text.isBlank 'f' = false := by decide
  have hchars : (hexadecimal (n + 1)).toList = '0' :: (('x' :: List.replicate n 'f') ++ ['f']) := by
    rw [hexadecimal, String.toList_ofList, List.replicate_succ']
    rfl
  rw [hchars, List.replicate_succ']
  simp [Text.trim, Text.trimLeft, Text.trimRight, hzero, hlast]

theorem mapM_replicate {α β : Type} {f : α → Option β} {a : α} {b : β} (h : f a = some b)
    (n : Nat) : (List.replicate n a).mapM f = some (List.replicate n b) := by
  induction n with
  | zero => rfl
  | succ n ih =>
    rw [List.replicate_succ, List.mapM_cons, h, ih]
    rfl

theorem prefixedNatural?_hexadecimal (n : Nat) :
    prefixedNatural? (Text.trim (hexadecimal (n + 2)).toList) =
      some (Binary64.ofDigits 16 (List.replicate (n + 2) 15)) := by
  have hbase : base? 'x' = some 16 := by decide
  have hdigit : digitBelow? 16 'f' = some 15 := by decide
  have hrest : dropRepeated 16 (List.replicate (n + 2) 'f') = List.replicate (n + 2) 'f' := by
    rw [List.replicate_succ, List.replicate_succ, dropRepeated, if_neg (by decide)]
  rw [trim_hexadecimal, prefixedNatural?, hbase, Option.bind_some, hrest, natural?,
    mapM_replicate hdigit]
  rfl

/-- With 256 digits such an answer is too large. -/
theorem isTooLarge_hexadecimal : isTooLarge (hexadecimal 256) = true := by
  rw [isTooLarge, prefixedNatural?_hexadecimal 254]
  decide +kernel

end Parley.Answer

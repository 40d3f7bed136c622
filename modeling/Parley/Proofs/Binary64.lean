import Mathlib.Algebra.Order.Ring.Nat
import Mathlib.Tactic.Ring
import Parley.Binary64.Basic

/-!
# Rounding whole numbers

A count of units is rounded to 53 significant bits, so it grows beyond a power of two as soon as
it is half of the last place below it (`roundUnits_lt_iff`). Hence a natural number is too large
for a finite number from `2¹⁰²⁴ - 2⁹⁷⁰` on (`ofInt?_natCast_eq_none_iff`).
-/

namespace Parley.Binary64

variable {u : Nat}

theorem le_roundDiv (num den : Nat) : num / den ≤ roundDiv num den := by
  unfold roundDiv
  simp only
  split <;> omega

theorem roundDiv_le (num den : Nat) : roundDiv num den ≤ num / den + 1 := by
  unfold roundDiv
  simp only
  split <;> omega

theorem roundUnits_one (u : Nat) :
    roundUnits u 1 = roundDiv u (2 ^ (u.log2 + 1 - 53)) * 2 ^ (u.log2 + 1 - 53) := by
  rw [roundUnits, Nat.div_one, Nat.one_mul]
  rfl

/-- Rounding does not go beyond the next power of two, for 53 bits at least. -/
theorem roundUnits_le (u : Nat) : roundUnits u 1 ≤ 2 ^ max 53 (u.log2 + 1) := by
  rw [roundUnits_one]
  generalize hs : u.log2 + 1 - 53 = s
  have hexp : max 53 (u.log2 + 1) = 53 + s := by omega
  have hu : u < 2 ^ 53 * 2 ^ s := by
    rw [← pow_add, ← hexp]
    exact Nat.lt_log2_self.trans_le (Nat.pow_le_pow_right (by decide) (le_max_right _ _))
  have hq : u / 2 ^ s < 2 ^ 53 := Nat.div_lt_of_lt_mul (by rwa [Nat.mul_comm])
  rw [hexp, pow_add]
  exact Nat.mul_le_mul_right _ ((roundDiv_le _ _).trans hq)

/-- Rounding does not go below the last power of two, for more than 53 bits. -/
theorem le_roundUnits (h : 52 ≤ u.log2) (hu : u ≠ 0) : 2 ^ u.log2 ≤ roundUnits u 1 := by
  rw [roundUnits_one]
  generalize hs : u.log2 + 1 - 53 = s
  have hexp : u.log2 = 52 + s := by omega
  have hle : 2 ^ 52 * 2 ^ s ≤ u := by
    rw [← pow_add, ← hexp]
    exact Nat.log2_self_le hu
  rw [hexp, pow_add]
  refine Nat.mul_le_mul_right _ (le_trans ?_ (le_roundDiv _ _))
  exact (Nat.le_div_iff_mul_le (Nat.two_pow_pos s)).2 hle

/-- In units of which 53 bits are kept, a quotient is rounded up to the power of two if it is half
    of a unit below. -/
theorem roundDiv_lt_iff {h : Nat} (hu : u < 2 ^ 54 * h) :
    roundDiv u (2 * h) < 2 ^ 53 ↔ u < 2 ^ 54 * h - h := by
  have hq : u / (2 * h) < 2 ^ 53 := Nat.div_lt_of_lt_mul (by omega)
  have hdiv := Nat.div_add_mod u (2 * h)
  have hmod := Nat.mod_lt u (show 0 < 2 * h by omega)
  unfold roundDiv
  simp only
  generalize u / (2 * h) = q at hq hdiv ⊢
  generalize u % (2 * h) = r at hdiv hmod ⊢
  rcases Nat.lt_or_ge q (2 ^ 53 - 1) with hlt | hge
  · have hle : 2 * h * q ≤ 2 * h * (2 ^ 53 - 2) := Nat.mul_le_mul_left _ (by omega)
    split <;> omega
  · -- The last quotient is odd, so half of a unit is rounded up.
    obtain rfl : q = 2 ^ 53 - 1 := by omega
    have hodd : ((2 ^ 53 - 1) % 2 == 0) = false := rfl
    simp only [hodd, Bool.and_false, Bool.or_false, decide_eq_true_eq]
    split <;> omega

/-- A count is rounded up to a power of two if it is half of the last place below. -/
theorem roundUnits_lt_iff (u j : Nat) :
    roundUnits u 1 < 2 ^ (54 + j) ↔ u < 2 ^ (54 + j) - 2 ^ j := by
  have hpow : 2 ^ (54 + j) = 2 ^ 54 * 2 ^ j := pow_add 2 54 j
  have hpos := Nat.two_pow_pos j
  rcases Nat.lt_trichotomy u.log2 (53 + j) with hlt | heq | hgt
  · -- Below the binade both sides hold.
    have hround : roundUnits u 1 ≤ 2 ^ (53 + j) :=
      (roundUnits_le u).trans (Nat.pow_le_pow_right (by decide) (by omega))
    have hsmall : u < 2 ^ (53 + j) :=
      Nat.lt_log2_self.trans_le (Nat.pow_le_pow_right (by decide) (by omega))
    have hpow' : 2 ^ (53 + j) = 2 ^ 53 * 2 ^ j := pow_add 2 53 j
    omega
  · -- In it the last place counts `2 * 2 ^ j`, half of which decides.
    have hu : u < 2 ^ 54 * 2 ^ j := by
      rw [← hpow]
      exact Nat.lt_log2_self.trans_le (Nat.pow_le_pow_right (by decide) (by omega))
    have hunit : 2 ^ (u.log2 + 1 - 53) = 2 * 2 ^ j := by
      rw [show u.log2 + 1 - 53 = j + 1 by omega, pow_succ, Nat.mul_comm]
    have hsplit : 2 ^ 54 * 2 ^ j = 2 ^ 53 * (2 * 2 ^ j) := by ring
    rw [roundUnits_one, hunit, hpow, ← roundDiv_lt_iff hu, hsplit]
    exact Nat.mul_lt_mul_right (by omega)
  · -- Above it neither side holds.
    have hu : u ≠ 0 := by
      rintro rfl
      simp at hgt
    have hround := le_roundUnits (by omega) hu
    have hlarge : 2 ^ (54 + j) ≤ 2 ^ u.log2 := Nat.pow_le_pow_right (by decide) (by omega)
    have hle := Nat.log2_self_le hu
    omega

theorem roundUnits_mul_lt_iff (n j k : Nat) :
    roundUnits (n * Nat.pow 2 k) 1 < Nat.pow 2 (54 + (j + k)) ↔ n < 2 ^ (54 + j) - 2 ^ j := by
  have hround := roundUnits_lt_iff (n * 2 ^ k) (j + k)
  have hpow : 2 ^ (54 + (j + k)) - 2 ^ (j + k) = (2 ^ (54 + j) - 2 ^ j) * 2 ^ k := by
    rw [← Nat.add_assoc, pow_add 2 (54 + j), pow_add 2 j, Nat.sub_mul]
  rw [hpow, Nat.mul_lt_mul_right (Nat.two_pow_pos k)] at hround
  exact hround

/-- The least natural number that is too large for a finite number: half of the last place below
    `2¹⁰²⁴`. -/
@[irreducible] def overflow : Nat :=
  2 ^ (54 + 970) - 2 ^ 970

-- The exponents are variables here: as literals they would be evaluated.
theorem ofUnits_eq (negative : Bool) (u k : Nat) (hk : k = 2098) :
    ofUnits negative u = if u < Nat.pow 2 k then .finite negative u else .infinite negative := by
  subst hk
  rfl

theorem one_eq (k : Nat) (hk : k = 1074) : Quantity.one = Nat.pow 2 k := by
  subst hk
  rfl

theorem overflow_eq (j : Nat) (hj : j = 970) : overflow = 2 ^ (54 + j) - 2 ^ j := by
  subst hj
  unfold overflow
  with_reducible rfl

theorem ofRatio_natCast (n : Nat) :
    ofRatio ((n : Int) < 0) (n : Int).natAbs 1 =
      if n < overflow then .finite ((n : Int) < 0) (roundUnits (n * Quantity.one) 1)
      else .infinite ((n : Int) < 0) := by
  obtain ⟨k, hk⟩ : ∃ k, k = 1074 := ⟨_, rfl⟩
  obtain ⟨j, hj⟩ : ∃ j, j = 970 := ⟨_, rfl⟩
  rw [ofRatio, Int.natAbs_natCast, ofUnits_eq _ _ (54 + (j + k)) (by omega), one_eq k hk,
    overflow_eq j hj]
  simp only [roundUnits_mul_lt_iff]

/-- A natural number is too large for a finite number from `2¹⁰²⁴ - 2⁹⁷⁰` on. -/
theorem ofInt?_natCast_eq_none_iff (n : Nat) : ofInt? n = none ↔ overflow ≤ n := by
  rw [ofInt?, ofRatio_natCast]
  by_cases h : n < overflow
  · simp [h, bounded?]
  · simp [h, bounded?, Nat.not_lt.1 h]

end Parley.Binary64

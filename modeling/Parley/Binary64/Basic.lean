/-!
# Binary floating-point numbers

The numbers of the 64-bit binary interchange format, in a form made for
reasoning: a finite number is a sign and a count of `2⁻¹⁰⁷⁴`, the smallest
positive number of the format, so that every finite number is a whole count
and comparing two of them is comparing integers (`Quantity`).

Every operation computes its result exactly, as a fraction of two natural
numbers, and rounds once (`roundUnits`): to 53 significant bits, to the nearer
neighbour, a tie to the even one. From `2¹⁰²⁴` on the result is infinite.
-/

namespace Parley

/-- A number of the 64-bit binary format. The sign of a zero is kept. -/
inductive Binary64 where
  | nan
  | infinite (negative : Bool)
  | finite (negative : Bool) (units : Nat)
  deriving DecidableEq, Inhabited, Repr

/-- The real quantity that a number stands for, on a scale that integers of
    any size share: nothing, an infinity, or a count of `2⁻¹⁰⁷⁴`. -/
inductive Quantity where
  | undefined
  | infinite (negative : Bool)
  | units (count : Int)
  deriving DecidableEq, Inhabited, Repr

namespace Quantity

/-- How many units make one. -/
def one : Nat := Nat.pow 2 1074

/-- The quantity of an integer. -/
def ofInt (n : Int) : Quantity :=
  .units (n * one)

/-- Both are the same quantity; nothing is the same as an undefined one. -/
def same : Quantity → Quantity → Bool
  | .infinite a, .infinite b => a == b
  | .units a, .units b => a == b
  | _, _ => false

/-- The first quantity is less than the second; an undefined one is not
    comparable. -/
def less : Quantity → Quantity → Bool
  | .infinite a, .infinite b => a && !b
  | .infinite a, .units _ => a
  | .units _, .infinite b => !b
  | .units a, .units b => a < b
  | _, _ => false

/-- The first quantity is at most the second. -/
def atMost (a b : Quantity) : Bool :=
  a.less b || a.same b

theorem same_ofInt {a b : Int} : (ofInt a).same (ofInt b) = decide (a = b) := by
  have h : (one : Int) ≠ 0 := by decide +kernel
  change (a * (one : Int) == b * one) = decide (a = b)
  rw [Bool.eq_iff_iff, beq_iff_eq, decide_eq_true_eq]
  exact ⟨Int.eq_of_mul_eq_mul_right h, fun e => by rw [e]⟩

theorem less_ofInt {a b : Int} : (ofInt a).less (ofInt b) = decide (a < b) := by
  have h : (0 : Int) < one := by decide +kernel
  simp only [ofInt, less, decide_eq_decide]
  exact Int.mul_lt_mul_right h

end Quantity

namespace Binary64

/-- The quantity of a number; both zeros have the same. -/
def quantity : Binary64 → Quantity
  | .nan => .undefined
  | .infinite s => .infinite s
  | .finite s u => .units (if s then -u else u)

def zero : Binary64 := .finite false 0

/-- `num / den` rounded to a whole number, a tie to the even one. -/
def roundDiv (num den : Nat) : Nat :=
  let q := num / den
  let r := num % den
  if 2 * r < den || (2 * r == den && q % 2 == 0) then q else q + 1

/-- The number of binary places below the last significant one of `u`. -/
def spare (u : Nat) : Nat :=
  u.log2 + 1 - 53

/-- `num / den` units rounded to 53 significant bits. -/
def roundUnits (num den : Nat) : Nat :=
  let s := spare (num / den)
  roundDiv num (den * Nat.pow 2 s) * Nat.pow 2 s

/-- The number of a count of units that has been rounded. -/
def ofUnits (negative : Bool) (u : Nat) : Binary64 :=
  if u < Nat.pow 2 2098 then .finite negative u else .infinite negative

/-- The number nearest to `num / den`. -/
def ofRatio (negative : Bool) (num den : Nat) : Binary64 :=
  ofUnits negative (roundUnits (num * Quantity.one) den)

/-- The number nearest to `coefficient · 10 ^ exponent`. Beyond `10³⁰⁹` the
    result is infinite and below `10⁻³²⁴` zero, whatever the coefficient's
    other digits. -/
def ofDecimal (negative : Bool) (coefficient : Nat) (exponent : Int) : Binary64 :=
  let magnitude := (Nat.toDigits 10 coefficient).length + exponent
  if coefficient = 0 ∨ magnitude ≤ -324 then .finite negative 0
  else if 310 ≤ magnitude then .infinite negative
  else if 0 ≤ exponent then ofRatio negative (coefficient * Nat.pow 10 exponent.toNat) 1
  else ofRatio negative coefficient (Nat.pow 10 (-exponent).toNat)

/-- The number, unless it is infinite. -/
def bounded? : Binary64 → Option Binary64
  | .infinite _ => none
  | x => some x

/-- The number nearest to an integer, if that is finite. -/
def ofInt? (n : Int) : Option Binary64 :=
  (ofRatio (n < 0) n.natAbs 1).bounded?

/-- The finite number as a signed count of units. -/
def signed (s : Bool) (u : Nat) : Int :=
  if s then -u else u

def add : Binary64 → Binary64 → Binary64
  | .nan, _ | _, .nan => .nan
  | .infinite a, .infinite b => if a = b then .infinite a else .nan
  | .infinite a, _ => .infinite a
  | _, .infinite b => .infinite b
  | .finite a u, .finite b v =>
    let sum := signed a u + signed b v
    if sum = 0 then .finite (a && b) 0
    else ofUnits (sum < 0) (roundUnits sum.natAbs 1)

def mul : Binary64 → Binary64 → Binary64
  | .nan, _ | _, .nan => .nan
  | .infinite a, .infinite b => .infinite (a != b)
  | .infinite a, .finite b v => if v = 0 then .nan else .infinite (a != b)
  | .finite a u, .infinite b => if u = 0 then .nan else .infinite (a != b)
  | .finite a u, .finite b v => ofUnits (a != b) (roundUnits (u * v) Quantity.one)

def neg : Binary64 → Binary64
  | .nan => .nan
  | .infinite s => .infinite (!s)
  | .finite s u => .finite (!s) u

/-- The integer that a number is, if it is one. -/
def toInt? : Binary64 → Option Int
  | .finite s u =>
    if u % Quantity.one = 0 then some (signed s (u / Quantity.one)) else none
  | _ => none

def isZero : Binary64 → Bool
  | .finite _ u => u = 0
  | _ => false

end Binary64

end Parley

import Parley.Value.Mapping

/-!
# Counting and comparing

What handlers compute with the values they find in the state: sums and
comparisons of numbers, a truth value counting as one or zero. A whole number
stays whole until a floating-point number joins it.
-/

namespace Parley.Value

/-- The integer that a whole number or a truth value is. -/
def whole? : Value → Option Int
  | .bool b => some (if b then 1 else 0)
  | .int n => some n
  | _ => none

/-- A number as a floating-point number, which it may be too large for. -/
def toBinary64 (v : Value) : Except Misuse Binary64 :=
  match v with
  | .float x => .ok x
  | _ =>
    match v.whole? with
    | none => .error .kind
    | some n => (Binary64.ofInt? n).elim (.error .overflow) .ok

/-- The sum of two numbers. -/
def add (a b : Value) : Except Misuse Value :=
  match a.whole?, b.whole? with
  | some m, some n => .ok (.int (m + n))
  | _, _ => do pure (.float (Binary64.add (← a.toBinary64) (← b.toBinary64)))

/-- The first of two numbers, or of two texts, is less than the second. -/
def isLess (a b : Value) : Except Misuse Bool :=
  match a.keyLess? b with
  | some r => .ok r
  | none => .error .kind

/-- The first of two numbers is at least the second. -/
def isAtLeast (a b : Value) : Except Misuse Bool :=
  match a.quantity?, b.quantity? with
  | some p, some q => .ok (q.atMost p)
  | _, _ => .error .kind

/-- The value, or another one where it is empty, zero or null. -/
def orElse (v other : Value) : Value :=
  if v.isTruthy then v else other

end Parley.Value

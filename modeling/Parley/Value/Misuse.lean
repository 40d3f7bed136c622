import Parley.Text.Digit

/-!
# Misuses of values

A value that a decision, a transform or a file supplies may not fit the use made
of it. Some of these misuses are reported in words, which they carry.
-/

namespace Parley

/-- A value does not fit the use made of it. -/
inductive Misuse where
  /-- The value is of a kind that the use does not admit. -/
  | kind
  /-- The value is of the right kind but malformed, in words. -/
  | form (words : String)
  /-- A key that is not there. -/
  | key
  /-- A part that values of this kind do not have. -/
  | part
  /-- A position past the end. -/
  | position
  /-- A number too large to be a finite one. -/
  | overflow
  /-- Markup that closes what is not open. -/
  | markup
  deriving DecidableEq, Repr

namespace Misuse

/-- An integer of more digits than are written. -/
def digits : Misuse :=
  .form (s!"Exceeds the limit ({Text.maxDigits} digits) for integer string conversion; "
    ++ "use sys.set_int_max_str_digits() to increase the limit")

/-- The wording for a numeral of more digits than are read. -/
def digitsRead (n : Nat) : String :=
  s!"Exceeds the limit ({Text.maxDigits} digits) for integer string conversion: value has "
    ++ s!"{n} digits; use sys.set_int_max_str_digits() to increase the limit"

/-- The wording of a misuse, if it is reported in words. -/
def message? : Misuse → Option String
  | .form words => some words
  | _ => none

end Misuse

end Parley

import Parley.Value.Text
import Parley.Fault
import Parley.Binary64.Reading

/-!
# Answers as numbers

How a typed answer is read as a number (`Answer.number`). Blanks around it do
not matter, and nothing at all counts as zero. It may be a decimal literal, a
whole number in hexadecimal, octal or binary digits after a prefix, or a
spelled-out infinity; anything else is the undefined number.
-/

namespace Parley.Answer

/-- The bases that a letter after a zero announces, in either case. -/
def base? (letter : Char) : Option Nat :=
  if letter = 'x' ∨ letter = 'X' then some 16
  else if letter = 'o' ∨ letter = 'O' then some 8
  else if letter = 'b' ∨ letter = 'B' then some 2
  else none

/-- The characters after a second announcement of the same base, if there is
    one. -/
def dropRepeated (base : Nat) : List Char → List Char
  | z :: letter :: cs =>
    if Text.digit? z = some 0 ∧ base? letter = some base then cs else z :: letter :: cs
  | cs => cs

/-- The value of a character as a digit of a base. -/
def digitBelow? (base : Nat) (c : Char) : Option Nat :=
  (Text.alphanumericDigit? c).filter (· < base)

/-- The natural number that the characters spell in a base, if there are any
    and all are digits of it. -/
def natural? (base : Nat) (cs : List Char) : Option Nat :=
  if cs.isEmpty then none
  else (cs.mapM (digitBelow? base)).map (Binary64.ofDigits base)

/-- The number that the characters after a prefix spell. It may be too large to
    be a finite one. -/
def prefixed (base : Nat) (cs : List Char) : Except Misuse Binary64 :=
  match natural? base (dropRepeated base cs) with
  | none => .ok .nan
  | some n => (Binary64.ofInt? n).elim (.error .overflow) .ok

/-- The infinities, as they have to be spelled. -/
def infinity? (cs : List Char) : Option Binary64 :=
  match String.ofList cs with
  | "Infinity" | "+Infinity" => some (.infinite false)
  | "-Infinity" => some (.infinite true)
  | _ => none

/-- The number that a decimal literal spells, the undefined one if the
    characters are none. -/
def decimal (cs : List Char) : Binary64 :=
  ((Binary64.Literal.parse? cs).map Binary64.Literal.value).getD .nan

/-- The number that characters without blanks at the ends spell. -/
def numberOf (cs : List Char) : Except Misuse Binary64 :=
  match cs with
  | [] => .ok .zero
  | '0' :: letter :: rest =>
    match base? letter with
    | some base => prefixed base rest
    | none => .ok (decimal cs)
  | _ =>
    match infinity? cs with
    | some x => .ok x
    | none => .ok (decimal cs)

/-- The number that an answer is read as; no answer counts as zero. -/
def number (v : Value) : Except Misuse Binary64 :=
  if v.isNull then .ok .zero else do numberOf (Text.trim (← v.display).toList)

end Parley.Answer

import Parley.Binary64.Basic
import Parley.Text.Blank
import Parley.Text.Digit

/-!
# Reading decimal literals

A decimal literal is an optional sign, digits with an optional point among,
before or after them, and an optional exponent. Digits of all scripts count
(`Literal.parse?`); its value is the nearest number of the binary format.
-/

namespace Parley.Binary64

/-- A decimal literal taken apart. -/
structure Literal where
  negative : Bool
  whole : List Nat
  places : List Nat
  exponent : Int
  deriving DecidableEq, Repr

/-- The natural number that digits of a base spell. -/
def ofDigits (base : Nat) (ds : List Nat) : Nat :=
  ds.foldl (fun n d => n * base + d) 0

/-- The digits that the characters begin with, and what follows them. -/
def spanDigits : List Char → List Nat × List Char
  | [] => ([], [])
  | c :: cs =>
    match Text.digit? c with
    | some d => let r := spanDigits cs; (d :: r.1, r.2)
    | none => ([], c :: cs)

/-- An optional sign, and what follows it. -/
def spanSign : List Char → Bool × List Char
  | '-' :: cs => (true, cs)
  | '+' :: cs => (false, cs)
  | cs => (false, cs)

/-- The exponent that makes up all of the characters, none counting as zero. -/
def exponent? : List Char → Option Int
  | [] => some 0
  | c :: cs =>
    if c = 'e' ∨ c = 'E' then
      let (negative, rest) := spanSign cs
      match spanDigits rest with
      | ([], _) => none
      | (ds, []) => some (signed negative (ofDigits 10 ds))
      | (_, _ :: _) => none
    else none

namespace Literal

/-- The literal that the characters spell. -/
def parse? (cs : List Char) : Option Literal :=
  let (negative, cs) := spanSign cs
  let (whole, cs) := spanDigits cs
  let (places, cs) := match cs with
    | '.' :: cs => spanDigits cs
    | cs => ([], cs)
  if whole.isEmpty && places.isEmpty then none
  else (exponent? cs).map fun e => ⟨negative, whole, places, e⟩

/-- The number nearest to the literal. -/
def value (x : Literal) : Binary64 :=
  ofDecimal x.negative (ofDigits 10 (x.whole ++ x.places)) (x.exponent - x.places.length)

end Literal

/-- The number that a name of an infinity or of the undefined number stands
    for, in any case of letters. -/
def named? (cs : List Char) : Option Binary64 :=
  let (negative, cs) := spanSign cs
  let name := String.ofList (cs.map Char.toLower)
  if name = "inf" ∨ name = "infinity" then some (.infinite negative)
  else if name = "nan" then some .nan
  else none

/-- The number that a text spells, blanks around it aside: a decimal literal
    or a name. -/
def read? (s : String) : Option Binary64 :=
  let cs := Text.trim s.toList
  match Literal.parse? cs with
  | some x => some x.value
  | none => named? cs

end Parley.Binary64

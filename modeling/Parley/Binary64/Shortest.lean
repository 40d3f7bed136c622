import Parley.Binary64.Basic

/-!
# Shortest decimal text

The decimal text of a binary floating-point number: as few digits as still
read back as the same number, and of those the nearest.

The reals that round to a number form an interval around it, whose ends
belong to it if the number's last bit is zero. On the decimal grid of a given
number of digits only the two neighbours of the number have to be tried; the
first grid, from one digit to seventeen, with a neighbour inside gives the
digits (`shortest`).
-/

namespace Parley.Binary64

/-- A positive decimal: `digits · 10 ^ exponent`. -/
structure Decimal where
  digits : Nat
  exponent : Int
  deriving DecidableEq, Repr

/-- The exponent of the first decimal digit of `u` units: the greatest `d`
    with `10 ^ d ≤ u · 2⁻¹⁰⁷⁴`. -/
def leadingExponent (u : Nat) : Int :=
  if Quantity.one ≤ u then
    ((Nat.toDigits 10 (u / Quantity.one)).length : Int) - 1
  else
    match (List.range 325).find? fun k => Quantity.one ≤ u * Nat.pow 10 k with
    | some k => -k
    | none => -324

/-- The grid point `c · 10 ^ g` lies among the reals that round to `u` units.
    Everything is counted in quarters of a unit. -/
def readsBack (u c : Nat) (g : Int) : Bool :=
  let s := spare u
  let step := Nat.pow 2 s
  let low := 4 * u - (if s ≠ 0 ∧ u = Nat.pow 2 (52 + s) then step else 2 * step)
  let high := 4 * u + 2 * step
  let scale := Nat.pow 10 (-g).toNat
  let point := c * Nat.pow 10 g.toNat * (4 * Quantity.one)
  if (u / step) % 2 = 0 then low * scale ≤ point && point ≤ high * scale
  else low * scale < point && point < high * scale

/-- The nearest of the two neighbours of `u` units on the grid of step
    `10 ^ g` that reads back, an exact tie going to the even one. -/
def onGrid (u : Nat) (g : Int) : Option Nat :=
  let scaled := u * Nat.pow 10 (-g).toNat
  let step := Nat.pow 10 g.toNat * Quantity.one
  let c := scaled / step
  match readsBack u c g, readsBack u (c + 1) g with
  | true, true => some (roundDiv scaled step)
  | true, false => some c
  | false, true => some (c + 1)
  | false, false => none

/-- Drops the zeros at the end of the digits; `places` bounds their number. -/
def Decimal.trimmed (places : Nat) (x : Decimal) : Decimal :=
  match places with
  | 0 => x
  | n + 1 => if x.digits % 10 = 0 then trimmed n ⟨x.digits / 10, x.exponent + 1⟩ else x

/-- The decimal of fewest digits that reads back as `u` units. -/
def shortest (u : Nat) : Decimal :=
  let d := leadingExponent u
  let found := (List.range 17).findSome? fun (n : Nat) =>
    (onGrid u (d - (n : Int))).map fun c => (⟨c, d - (n : Int)⟩ : Decimal)
  (found.getD ⟨u, 0⟩).trimmed 18

/-- The digits of a decimal with its point, or in scientific notation before
    `10⁻⁴` and from `10¹⁶` on. A whole number keeps one decimal place. -/
def Decimal.text (x : Decimal) : String :=
  let ds := Nat.toDigits 10 x.digits
  let d := x.exponent + ds.length - 1
  if -4 ≤ d ∧ d < 16 then
    if d < 0 then
      String.ofList ("0.".toList ++ List.replicate (-d - 1).toNat '0' ++ ds)
    else
      let whole := ds.take (d.toNat + 1) ++ List.replicate (d.toNat + 1 - ds.length) '0'
      let places := ds.drop (d.toNat + 1)
      String.ofList (whole ++ '.' :: (if places.isEmpty then ['0'] else places))
  else
    let mark := if d < 0 then "e-" else "e+"
    let power := Nat.toDigits 10 d.natAbs
    let places := ds.drop 1
    String.ofList (ds.take 1 ++ (if places.isEmpty then [] else '.' :: places)
      ++ mark.toList ++ (if power.length < 2 then '0' :: power else power))

/-- The text of a number. -/
def text : Binary64 → String
  | .nan => "nan"
  | .infinite false => "inf"
  | .infinite true => "-inf"
  | .finite s u =>
    let magnitude := if u = 0 then "0.0" else (shortest u).text
    if s then "-" ++ magnitude else magnitude

end Parley.Binary64

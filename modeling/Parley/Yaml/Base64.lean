/-!
# Octets in base 64

Four characters of an alphabet of sixty-four spell three octets. Characters
outside of the alphabet are skipped, equals signs fill up the last group, and
what follows a filled group is not looked at.
-/

namespace Parley.Yaml.Base64

/-- The value of a character of the alphabet. -/
def digit? (c : Char) : Option Nat :=
  if c.isUpper then some (c.toNat - 0x41)
  else if c.isLower then some (c.toNat - 0x61 + 26)
  else if c.isDigit then some (c.toNat - 0x30 + 52)
  else if c = '+' then some 62
  else if c = '/' then some 63
  else none

/-- The octets that the rest of the characters spell, after `place` characters
    of a group and then `fills` equals signs; `carry` are the bits of the group
    that belong to the next octet. -/
def decodeFrom (place carry fills : Nat) : List Char → Option (List UInt8)
  | [] => if place = 0 then some [] else none
  | c :: cs =>
    if c = '=' then
      if place < 2 then decodeFrom place carry fills cs
      else if 4 ≤ place + fills + 1 then some []
      else decodeFrom place carry (fills + 1) cs
    else
      match digit? c, place with
      | none, _ => decodeFrom place carry fills cs
      | some v, 0 => decodeFrom 1 v 0 cs
      | some v, 1 => (decodeFrom 2 (v % 16) 0 cs).map (UInt8.ofNat (carry * 4 + v / 16) :: ·)
      | some v, 2 => (decodeFrom 3 (v % 4) 0 cs).map (UInt8.ofNat (carry * 16 + v / 4) :: ·)
      | some v, _ => (decodeFrom 0 0 0 cs).map (UInt8.ofNat (carry * 64 + v) :: ·)

/-- The octets that the characters spell, if their last group is complete. -/
def decode (cs : List Char) : Option (List UInt8) :=
  decodeFrom 0 0 0 cs

end Parley.Yaml.Base64

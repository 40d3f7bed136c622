import Parley.Text.Printable

/-!
# Quoted text

How a text is written inside a list, a record or a message that shows values
(`quote`): between apostrophes, or between double quotes if it holds an
apostrophe but no double quote. A backslash, the quote in use and three
controls are escaped by a backslash; every other unprintable character is
spelled by its code point in two, four or eight hexadecimal digits.
-/

namespace Parley.Text

/-- The lower-case hexadecimal digit of `n`, for `n < 16`. -/
def hexDigit (n : Nat) : Char :=
  if n < 10 then Char.ofNat (0x30 + n) else Char.ofNat (0x61 + (n - 10))

/-- The last `width` hexadecimal digits of `n`. -/
def hexDigits (width n : Nat) : List Char :=
  match width with
  | 0 => []
  | w + 1 => hexDigits w (n / 16) ++ [hexDigit (n % 16)]

/-- The spelling of an unprintable character by its code point. -/
def spellCodePoint (n : Nat) : List Char :=
  if n < 0x100 then '\\' :: 'x' :: hexDigits 2 n
  else if n < 0x10000 then '\\' :: 'u' :: hexDigits 4 n
  else '\\' :: 'U' :: hexDigits 8 n

/-- One character of a text that is quoted by `q`. -/
def escape (q c : Char) : List Char :=
  if c = q || c = '\\' then ['\\', c]
  else if c = '\n' then ['\\', 'n']
  else if c = '\r' then ['\\', 'r']
  else if c = '\t' then ['\\', 't']
  else if isPrintable c then [c]
  else spellCodePoint c.toNat

/-- The quote for a text: the apostrophe, unless that would have to be escaped
    and the double quote would not. -/
def quoteFor (cs : List Char) : Char :=
  if cs.contains '\'' && !cs.contains '"' then '"' else '\''

/-- The text as it is written inside other values. -/
def quote (s : String) : String :=
  let cs := s.toList
  let q := quoteFor cs
  String.ofList (q :: cs.flatMap (escape q) ++ [q])

end Parley.Text

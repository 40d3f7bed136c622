import Parley.Yaml.Token

/-!
# Quoted scalars

Between apostrophes, two of them stand for one. Between double quotes a
backslash begins an escape: a character of its own, a code point in hexadecimal
digits, or a line break that is left out. Line breaks are folded in both, and
the blanks around them dropped.
-/

namespace Parley.Yaml.Cursor

/-- The character that a letter stands for after a backslash. -/
def escapes : List (Char × Char) :=
  [ ('0', '\x00'), ('a', '\x07'), ('b', '\x08'), ('t', '\t'), ('\t', '\t'), ('n', '\n'),
    ('v', '\x0b'), ('f', '\x0c'), ('r', '\r'), ('e', '\x1b'), (' ', ' '), ('"', '"'),
    ('\\', '\\'), ('/', '/'), ('N', '\u0085'), ('_', '\u00a0'), ('L', lineSeparator),
    ('P', paragraphSeparator) ]

/-- The number of hexadecimal digits after a letter that announces a code
    point. -/
def codeLength (ch : Char) : Option Nat :=
  if ch = 'x' then some 2 else if ch = 'u' then some 4 else if ch = 'U' then some 8 else none

/-- The character of an escaped code point. -/
def ofCodePoint (n : Nat) : Except Refusal Char :=
  if 0xd800 ≤ n ∧ n < 0xe000 then .error .surrogate
  else if n ≤ 0x10ffff then .ok (Char.ofNat n)
  else if n < 0x80000000 then .error (.content .codePoint)
  else .error (.misuse .overflow)

/-- The breaks of the empty lines after a line break, and the blanks at the
    beginning of each line; `bound` is at least the number of characters left. -/
def quotedBreaks (bound : Nat) (c : Cursor) : Except Refusal (List Char × Cursor) :=
  match bound with
  | 0 => .ok ([], c)
  | n + 1 =>
    if c.atDocumentMarker then .error .token
    else
      let c := c.skipWhile fun ch => ch = ' ' || ch = '\t'
      if isBreak c.peek then do
        let (br, c) := c.takeBreak
        let (rest, c) ← quotedBreaks n c
        pure (br ++ rest, c)
      else .ok ([], c)

/-- The blanks at the position, folded if they hold a line break. -/
def quotedBlanks (c : Cursor) : Except Refusal (List Char × Cursor) :=
  let (blanks, c) := c.span fun ch => ch = ' ' || ch = '\t'
  if c.peek = endMark then .error .token
  else if isBreak c.peek then do
    let (first, c) := c.takeBreak
    let (following, c) ← quotedBreaks (c.rest.length + 1) c
    pure (foldBreaks first following, c)
  else .ok (blanks, c)

/-- What an escape stands for; the position is after its backslash. -/
def takeEscape (c : Cursor) : Except Refusal (List Char × Cursor) :=
  match escapes.lookup c.peek with
  | some ch => .ok ([ch], c.next)
  | none =>
    match codeLength c.peek with
    | some n => do
      let (code, c) ← c.next.takeHex n
      pure ([← ofCodePoint code], c)
    | none =>
      if isBreak c.peek then quotedBreaks (c.rest.length + 1) c.takeBreak.2
      else .error .token

/-- What the characters up to the closing quote stand for, and the position
    after it; `bound` is at least the number of characters left. -/
def quotedContent (quote : Char) (bound : Nat) (c : Cursor) :
    Except Refusal (List Char × Cursor) :=
  match bound with
  | 0 => .error .token
  | n + 1 =>
    let isDouble := quote = '"'
    let ch := c.peek
    let go (piece : List Char) (after : Cursor) : Except Refusal (List Char × Cursor) := do
      let (rest, c) ← quotedContent quote n after
      pure (piece ++ rest, c)
    if ch = quote then
      if !isDouble ∧ c.peekAt 1 = quote then go [quote] (c.skip 2)
      else .ok ([], c.next)
    else if isDouble ∧ ch = '\\' then
      match c.next.takeEscape with
      | .ok (piece, after) => go piece after
      | .error e => .error e
    else if isGapOrEnd ch then
      match c.quotedBlanks with
      | .ok (piece, after) => go piece after
      | .error e => .error e
    else go [ch] c.next

/-- The quoted scalar at the position. -/
def takeQuoted (c : Cursor) : Except Refusal (List Char × Cursor) :=
  quotedContent c.peek (c.rest.length + 1) c.next

end Parley.Yaml.Cursor

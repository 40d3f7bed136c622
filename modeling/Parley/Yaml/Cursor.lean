import Parley.Yaml.Refusal

/-!
# Positions in a document

A cursor is what is left of a text together with the number of characters,
lines and columns before it. Indentation is measured in columns; the byte order
mark has no width.

At the end of the text a cursor shows the end mark, which is no character of
any document.
-/

namespace Parley.Yaml

/-- A position in a text. -/
structure Cursor where
  rest : List Char
  index : Nat
  line : Nat
  column : Nat
  deriving Repr

/-- What a cursor shows at the end. -/
def endMark : Char := '\x00'

def lineSeparator : Char := '\u2028'

def paragraphSeparator : Char := '\u2029'

def byteOrderMark : Char := '\ufeff'

/-- The character ends a line. -/
def isBreak (ch : Char) : Bool :=
  ch = '\n' || ch = '\u0085' || ch = lineSeparator || ch = paragraphSeparator

def isBreakOrEnd (ch : Char) : Bool :=
  isBreak ch || ch = endMark

/-- A space, or the end of a line or of the text. -/
def isSpaceOrEnd (ch : Char) : Bool :=
  ch = ' ' || isBreakOrEnd ch

/-- A space or a tab, or the end of a line or of the text. -/
def isGapOrEnd (ch : Char) : Bool :=
  ch = '\t' || isSpaceOrEnd ch

/-- A character that a document may hold. -/
def isAllowed (ch : Char) : Bool :=
  let n := ch.toNat
  n = 9 || n = 10 || n = 13 || (0x20 ≤ n && n ≤ 0x7e) || n = 0x85 || (0xa0 ≤ n && n ≤ 0xfffd)
    || 0x10000 ≤ n

/-- The characters with each carriage return, and the line feed after it if
    there is one, replaced by a line feed. -/
def normalizeBreaks : List Char → List Char
  | [] => []
  | '\r' :: '\n' :: cs => '\n' :: normalizeBreaks cs
  | c :: cs => (if c = '\r' then '\n' else c) :: normalizeBreaks cs

namespace Cursor

/-- The beginning of a text. -/
def start (cs : List Char) : Cursor :=
  ⟨cs, 0, 0, 0⟩

/-- The character `k` places ahead. -/
def peekAt (c : Cursor) (k : Nat) : Char :=
  c.rest.getD k endMark

/-- The next character. -/
def peek (c : Cursor) : Char :=
  c.rest.headD endMark

/-- Moves on by one character. -/
def next (c : Cursor) : Cursor :=
  match c.rest with
  | [] => c
  | ch :: rest =>
    if isBreak ch then ⟨rest, c.index + 1, c.line + 1, 0⟩
    else ⟨rest, c.index + 1, c.line, if ch = byteOrderMark then c.column else c.column + 1⟩

/-- Moves on by `n` characters. -/
def skip : Nat → Cursor → Cursor
  | 0, c => c
  | n + 1, c => skip n c.next

/-- The characters up to the first that fails the test, and the position of
    that one. -/
def span (p : Char → Bool) (c : Cursor) : List Char × Cursor :=
  let taken := c.rest.takeWhile p
  (taken, c.skip taken.length)

/-- The position of the first character that fails the test. -/
def skipWhile (p : Char → Bool) (c : Cursor) : Cursor :=
  (c.span p).2

/-- Skips the spaces at the position. -/
def skipSpaces (c : Cursor) : Cursor :=
  c.skipWhile (· = ' ')

/-- Skips the rest of the line if it is a comment. -/
def skipComment (c : Cursor) : Cursor :=
  if c.peek = '#' then c.skipWhile (!isBreak ·) else c

/-- Takes the line break at the position, if there is one; all but the
    separators of lines and paragraphs count as line feeds. -/
def takeBreak (c : Cursor) : List Char × Cursor :=
  if isBreak c.peek then
    let kept := c.peek = lineSeparator ∨ c.peek = paragraphSeparator
    ([if kept then c.peek else '\n'], c.next)
  else ([], c)

/-- Three equal characters followed by a gap. -/
def hasMarker (ch : Char) (c : Cursor) : Bool :=
  c.rest.take 3 = [ch, ch, ch] && isGapOrEnd (c.peekAt 3)

/-- The position is at a line of three hyphens or of three points, which ends
    any scalar. -/
def atDocumentMarker (c : Cursor) : Bool :=
  c.hasMarker '-' || c.hasMarker '.'

/-- Takes hexadecimal digits, `n` of them. -/
def takeHex (n : Nat) (c : Cursor) : Except Refusal (Nat × Cursor) :=
  let ds := c.rest.take n
  let digit? (ch : Char) : Option Nat :=
    if ch.isDigit then some (ch.toNat - 0x30)
    else if 'a' ≤ ch ∧ ch ≤ 'f' then some (ch.toNat - 0x61 + 10)
    else if 'A' ≤ ch ∧ ch ≤ 'F' then some (ch.toNat - 0x41 + 10)
    else none
  match ds.mapM digit? with
  | some values =>
    if values.length = n then .ok (values.foldl (fun a d => 16 * a + d) 0, c.skip n)
    else .error .token
  | none => .error .token

end Cursor

/-- What a line break inside a scalar becomes: one space, unless it is kept or
    empty lines follow, whose breaks stand for themselves. -/
def foldBreaks (first following : List Char) : List Char :=
  if first ≠ ['\n'] then first ++ following
  else if following.isEmpty then [' ']
  else following

end Parley.Yaml

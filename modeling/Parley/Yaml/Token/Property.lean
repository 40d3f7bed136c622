import Parley.Yaml.Token

/-!
# Directives, anchors, aliases and tags

The tokens that stand before a document or a node and say something about it.
Each function starts at the indicator that begins its token.
-/

namespace Parley.Yaml.Cursor

/-- A character of a name of an anchor, a directive or a tag handle. -/
def isNameChar (ch : Char) : Bool :=
  ch.isAlphanum || ch = '-' || ch = '_'

/-- A character of a tag other than the percent sign. -/
def isTagChar (ch : Char) : Bool :=
  ch.isAlphanum || "-;/?:@&=+$,_.!~*'()[]".toList.contains ch

/-- A name of at least one character. -/
def takeName (c : Cursor) : Except Refusal (List Char × Cursor) :=
  match c.span isNameChar with
  | ([], _) => .error .token
  | named => .ok named

/-- An anchor or an alias: its name, after the indicator. -/
def takeAnchor (c : Cursor) : Except Refusal (String × Cursor) := do
  let (name, c) ← c.next.takeName
  if isGapOrEnd c.peek || "?:,]\x7d%@\x60".toList.contains c.peek then
    pure (String.ofList name, c)
  else throw .token

/-! ### Tags -/

/-- Octets written as a percent sign and two hexadecimal digits each, as many
    as follow one another; `bound` is at least their number. -/
def takeOctets (bound : Nat) (c : Cursor) : Except Refusal (List UInt8 × Cursor) :=
  match bound with
  | 0 => .ok ([], c)
  | n + 1 =>
    if c.peek = '%' then do
      let (octet, c) ← c.next.takeHex 2
      let (octets, c) ← takeOctets n c
      pure (UInt8.ofNat octet :: octets, c)
    else .ok ([], c)

/-- The characters of a tag, those of escaped octets included; `bound` is at
    least the number of characters left. -/
def takeTagChars (bound : Nat) (c : Cursor) : Except Refusal (List Char × Cursor) :=
  match bound with
  | 0 => .ok ([], c)
  | n + 1 =>
    if c.peek = '%' then do
      let (octets, c) ← takeOctets n c
      let some s := String.fromUTF8? (ByteArray.mk octets.toArray) | throw .token
      let (rest, c) ← takeTagChars n c
      pure (s.toList ++ rest, c)
    else if isTagChar c.peek then do
      let (rest, after) ← takeTagChars n c.next
      pure (c.peek :: rest, after)
    else .ok ([], c)

/-- The text of a tag or of a part of it, which is not empty. -/
def takeTagText (c : Cursor) : Except Refusal (String × Cursor) :=
  if c.peek = '%' || isTagChar c.peek then do
    let (cs, c) ← takeTagChars (c.rest.length + 1) c
    pure (String.ofList cs, c)
  else throw .token

/-- A tag handle: an exclamation mark, or a name between two. -/
def takeHandle (c : Cursor) : Except Refusal (String × Cursor) := do
  unless c.peek = '!' do throw .token
  if c.peekAt 1 = ' ' then pure ("!", c.next)
  else
    let (name, c) := c.next.span isNameChar
    unless c.peek = '!' do throw .token
    pure (String.ofList ('!' :: name ++ ['!']), c.next)

/-- The characters after an exclamation mark hold a second one before the next
    space or break. -/
def hasSecondMark (c : Cursor) : Bool :=
  (c.next.span fun ch => !isSpaceOrEnd ch && ch ≠ '!').2.peek = '!'

/-- A tag: in angle brackets, alone, or behind a handle. -/
def takeTag (c : Cursor) : Except Refusal (Token × Cursor) := do
  let (t, c) ←
    if c.peekAt 1 = '<' then do
      let (uri, c) ← (c.skip 2).takeTagText
      unless c.peek = '>' do throw .token
      pure (Token.tag none uri, c.next)
    else if isGapOrEnd (c.peekAt 1) then
      pure (Token.tag none "!", c.next)
    else do
      let (handle, c) ← if c.hasSecondMark then c.takeHandle else pure ("!", c.next)
      let (suffix, c) ← c.takeTagText
      pure (Token.tag (some handle) suffix, c)
  unless isSpaceOrEnd c.peek do throw .token
  pure (t, c)

/-! ### Directives -/

/-- A decimal number of a version. -/
def takeNumber (c : Cursor) : Except Refusal (Nat × Cursor) :=
  match c.span Char.isDigit with
  | ([], _) => .error .token
  | (ds, c) => .ok (ds.foldl (fun n d => 10 * n + (d.toNat - 0x30)) 0, c)

/-- The major and minor number of a version. -/
def takeVersion (c : Cursor) : Except Refusal (Directive × Cursor) := do
  let (major, c) ← c.skipSpaces.takeNumber
  unless c.peek = '.' do throw .token
  let (minor, c) ← c.next.takeNumber
  unless isSpaceOrEnd c.peek do throw .token
  pure (.version major minor, c)

/-- A tag handle and what it stands for. -/
def takeTagDirective (c : Cursor) : Except Refusal (Directive × Cursor) := do
  let (handle, c) ← c.skipSpaces.takeHandle
  unless c.peek = ' ' do throw .token
  let (stem, c) ← c.skipSpaces.takeTagText
  unless isSpaceOrEnd c.peek do throw .token
  pure (.tag handle stem, c)

/-- The end of a line on which nothing but a comment may follow. -/
def endLine (c : Cursor) : Except Refusal Cursor :=
  let c := c.skipSpaces.skipComment
  if isBreakOrEnd c.peek then .ok c.takeBreak.2 else .error .token

/-- A directive and the end of its line. -/
def takeDirective (c : Cursor) : Except Refusal (Token × Cursor) := do
  let (name, c) ← c.next.takeName
  unless isSpaceOrEnd c.peek do throw .token
  let (d, c) ←
    if name = "YAML".toList then c.takeVersion
    else if name = "TAG".toList then c.takeTagDirective
    else pure (.other, c.skipWhile (!isBreak ·))
  pure (.directive d, ← c.endLine)

end Parley.Yaml.Cursor

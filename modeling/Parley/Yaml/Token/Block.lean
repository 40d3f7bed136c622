import Parley.Yaml.Token.Property

/-!
# Block scalars

A block scalar is announced by a bar or an angle bracket and consists of the
lines after it that are indented enough. After a bar its line breaks are kept,
after an angle bracket they are folded, except next to a line that begins with
a blank. A plus keeps the line breaks at its end, a minus drops all of them,
and otherwise one is left.
-/

namespace Parley.Yaml.Cursor

/-- What becomes of the line breaks at the end. -/
inductive Chomping where
  | strip
  | clip
  | keep
  deriving DecidableEq, Repr

/-- What stands after the bar or angle bracket. -/
structure BlockHeader where
  chomping : Chomping
  /-- By how much the lines are indented, if it is said. -/
  increment : Option Nat
  deriving Repr

/-- The sign for the chomping, if there is one. -/
def takeChomping (c : Cursor) : Option Chomping × Cursor :=
  if c.peek = '+' then (some .keep, c.next)
  else if c.peek = '-' then (some .strip, c.next)
  else (none, c)

/-- The digit for the indentation, if there is one; it is not zero. -/
def takeIncrement (c : Cursor) : Except Refusal (Option Nat × Cursor) :=
  if c.peek = '0' then .error .token
  else if c.peek.isDigit then .ok (some (c.peek.toNat - 0x30), c.next)
  else .ok (none, c)

/-- The sign and the digit in either order. -/
def takeBlockHeader (c : Cursor) : Except Refusal (BlockHeader × Cursor) := do
  let (first, c) := c.takeChomping
  let (increment, c) ← c.takeIncrement
  let (second, c) := if first.isNone && increment.isSome then c.takeChomping else (none, c)
  unless isSpaceOrEnd c.peek do throw .token
  pure (⟨(first.or second).getD .clip, increment⟩, c)

/-- The breaks of the empty lines at the position, and the greatest column
    that their spaces reach; `bound` is at least the number of characters left. -/
def leadingLines (bound : Nat) (c : Cursor) : List Char × Nat × Cursor :=
  match bound with
  | 0 => ([], 0, c)
  | n + 1 =>
    if c.peek = ' ' then
      let (breaks, deepest, after) := leadingLines n c.next
      (breaks, max c.next.column deepest, after)
    else if isBreak c.peek then
      let (br, c) := c.takeBreak
      let (breaks, deepest, c) := leadingLines n c
      (br ++ breaks, deepest, c)
    else ([], 0, c)

/-- Skips spaces up to a column. -/
def skipIndent (indent : Nat) (c : Cursor) : Cursor :=
  c.skip ((c.rest.take (indent - c.column)).takeWhile (· = ' ')).length

/-- The breaks of the empty lines at the position, which no more than the
    indentation precedes; `bound` is at least the number of characters left. -/
def emptyLines (indent bound : Nat) (c : Cursor) : List Char × Cursor :=
  match bound with
  | 0 => ([], c)
  | n + 1 =>
    let c := c.skipIndent indent
    if isBreak c.peek then
      let (br, c) := c.takeBreak
      let (breaks, c) := emptyLines indent n c
      (br ++ breaks, c)
    else ([], c)

/-- The lines of a block scalar after the line breaks `breaks`. `bound` is at
    least the number of characters left. -/
def blockLines (folded : Bool) (chomping : Chomping) (indent bound : Nat) (breaks : List Char)
    (c : Cursor) : List Char × Cursor :=
  match bound with
  | 0 => ([], c)
  | n + 1 =>
    let isBlank (ch : Char) : Bool := ch = ' ' || ch = '\t'
    let isInside (c : Cursor) : Bool := c.column = indent && c.peek ≠ endMark
    let (line, after) := c.span (!isBreak ·)
    let (lineBreak, after) := after.takeBreak
    let (following, after) := after.emptyLines indent (after.rest.length + 1)
    if isInside after then
      let joint :=
        if folded ∧ lineBreak = ['\n'] ∧ !isBlank c.peek ∧ !isBlank after.peek then
          if following.isEmpty then [' '] else []
        else lineBreak
      let (rest, c) := blockLines folded chomping indent n following after
      (breaks ++ line ++ joint ++ rest, c)
    else
      let tail := match chomping with
        | .strip => []
        | .clip => lineBreak
        | .keep => lineBreak ++ following
      (breaks ++ line ++ tail, after)

/-- The block scalar at the position, in a collection of the given
    indentation. -/
def takeBlock (parent : Int) (c : Cursor) : Except Refusal (List Char × Cursor) := do
  let folded := c.peek = '>'
  let (header, c) ← c.next.takeBlockHeader
  let c ← c.endLine
  let least := (max 1 (parent + 1)).toNat
  let (indent, breaks, c) := match header.increment with
    | none =>
      let (breaks, deepest, c) := c.leadingLines (c.rest.length + 1)
      (max least deepest, breaks, c)
    | some n =>
      let indent := least + n - 1
      let (breaks, c) := c.emptyLines indent (c.rest.length + 1)
      (indent, breaks, c)
  if c.column = indent ∧ c.peek ≠ endMark then
    pure (blockLines folded header.chomping indent (c.rest.length + 1) breaks c)
  else
    pure (if header.chomping = .keep then breaks else [], c)

end Parley.Yaml.Cursor

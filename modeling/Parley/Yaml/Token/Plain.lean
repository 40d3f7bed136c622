import Parley.Yaml.Token

/-!
# Plain scalars

A plain scalar is written without quotes. It goes on to a comment, to a colon
before a gap, or to a line that is indented too little for it; inside brackets
it also ends at a comma, a question mark or a bracket. Line breaks inside it
are folded.
-/

namespace Parley.Yaml.Cursor

/-- A comma or a bracket. -/
def isFlowIndicator (ch : Char) : Bool :=
  [',', '[', ']', '{', '}'].contains ch

/-- A plain scalar can begin at the position. -/
def startsPlain (inFlow : Bool) (c : Cursor) : Bool :=
  let ch := c.peek
  if isGapOrEnd ch then false
  else if "-?:,[]\x7b\x7d#&*!|>'\"%@\x60".toList.contains ch then
    !isGapOrEnd (c.peekAt 1) && (ch = '-' || (!inFlow && (ch = '?' || ch = ':')))
  else true

/-- The characters up to a gap or an indicator that ends a plain scalar. -/
def plainWord (inFlow : Bool) : List Char → List Char
  | [] => []
  | ch :: cs =>
    let after := cs.headD endMark
    if isGapOrEnd ch then []
    else if ch = ':' ∧ (isGapOrEnd after ∨ (inFlow ∧ isFlowIndicator after)) then []
    else if inFlow ∧ (ch = '?' ∨ isFlowIndicator ch) then []
    else ch :: plainWord inFlow cs

/-- What separates two words of a plain scalar. -/
structure PlainGap where
  /-- The characters that stand for it in the scalar. -/
  folded : List Char
  /-- It holds a line break. -/
  brokeLine : Bool
  after : Cursor

/-- The line breaks among spaces and breaks, unless a document marker follows
    one; `bound` is at least the number of characters left. -/
def plainBreaks (bound : Nat) (c : Cursor) : Option (List Char) × Cursor :=
  match bound with
  | 0 => (some [], c)
  | n + 1 =>
    if c.peek = ' ' then plainBreaks n c.next
    else if isBreak c.peek then
      let (br, c) := c.takeBreak
      if c.atDocumentMarker then (none, c)
      else
        let (breaks, c) := plainBreaks n c
        (breaks.map (br ++ ·), c)
    else (some [], c)

/-- What separates a word from what follows it; nothing if the scalar is over. -/
def plainGap (c : Cursor) : PlainGap :=
  let (spaces, c) := c.span (· = ' ')
  if isBreak c.peek then
    let (first, c) := c.takeBreak
    if c.atDocumentMarker then ⟨[], true, c⟩
    else
      match plainBreaks (c.rest.length + 1) c with
      | (some breaks, c) => ⟨foldBreaks first breaks, true, c⟩
      | (none, c) => ⟨[], true, c⟩
  else ⟨spaces, false, c⟩

/-- A plain scalar taken apart from what follows it. -/
structure PlainScan where
  content : List Char
  /-- The scalar ends after a line break, so that a key may follow. -/
  keyMayFollow : Bool
  after : Cursor

/-- The words of a plain scalar from the position on, after what separates them
    from earlier ones. `indent` is the least column of a further line, and
    `bound` is at least the number of characters left. -/
def plainWords (inFlow : Bool) (indent : Int) (bound : Nat) (before : PlainGap) : PlainScan :=
  match bound with
  | 0 => ⟨[], before.brokeLine, before.after⟩
  | n + 1 =>
    let c := before.after
    let word := plainWord inFlow c.rest
    if c.peek = '#' || word.isEmpty then ⟨[], before.brokeLine, c⟩
    else
      let gap := plainGap (c.skip word.length)
      let isOver := gap.folded.isEmpty || gap.after.peek = '#'
        || (!inFlow && gap.after.column < indent)
      let tail := if isOver then ⟨[], gap.brokeLine, gap.after⟩ else plainWords inFlow indent n gap
      { tail with content := before.folded ++ word ++ tail.content }

/-- The plain scalar at the position. -/
def takePlain (inFlow : Bool) (indent : Int) (c : Cursor) : PlainScan :=
  plainWords inFlow indent (c.rest.length + 1) ⟨[], false, c⟩

end Parley.Yaml.Cursor

import Parley.Binary64.Basic
import Parley.Terminal.Layout

/-!
# Tables

A table has a row of headings and rows of cells. A column is as wide as its
widest cell needs; if the table is too wide, the widest columns are narrowed
first, all to the same width, and their cells wrapped (`Table.columnWidths`).
-/

namespace Parley.Terminal

structure Cell where
  content : List Char
  align : Align

/-- The lines and spaces around the cells of a table. -/
structure TableFrame where
  /-- Each line is drawn with its left end, its filling, its divider and its
      right end. -/
  top : Char × Char × Char × Char
  head : Char × Char × Char
  underHead : Char × Char × Char × Char
  body : Char × Char × Char
  bottom : Char × Char × Char × Char
  /-- The spaces to the left and to the right of the cells of a column, by its
      number and the number of columns. -/
  padding : Nat → Nat → Nat × Nat

/-- Heavy lines around the headings, light ones around the rows. -/
def TableFrame.heavyHead : TableFrame where
  top := ('┏', '━', '┳', '┓')
  head := ('┃', '┃', '┃')
  underHead := ('┡', '━', '╇', '┩')
  body := ('│', '│', '│')
  bottom := ('└', '─', '┴', '┘')
  padding _ _ := (1, 1)

/-- One light line under the headings. -/
def TableFrame.simple : TableFrame where
  top := (' ', ' ', ' ', ' ')
  head := (' ', ' ', ' ')
  underHead := (' ', '─', '─', ' ')
  body := (' ', ' ', ' ')
  bottom := (' ', ' ', ' ', ' ')
  padding column count := (0, if column + 1 = count then 0 else 1)

structure Table where
  frame : TableFrame
  headings : List Cell
  rows : List (List Cell)

namespace Table

/-- What some widths add up to. -/
def total (widths : List Nat) : Nat :=
  widths.foldl (· + ·) 0

/-- Takes `excess` away from the chosen columns, from each about the same and at
    most `limit`; `count` is the number of chosen columns. -/
def takeEvenly (limit excess count : Nat) : List (Nat × Bool) → List Nat
  | [] => []
  | (width, chosen) :: rest =>
    if chosen ∧ limit ≠ 0 ∧ count ≠ 0 then
      let share := min limit (Binary64.roundDiv excess count)
      (width - share) :: takeEvenly limit (excess - share) (count - 1) rest
    else width :: takeEvenly limit excess count rest

/-- Narrows the widest columns until the widths add up to `most` or all are the
    same; `bound` is at least the sum of the widths. -/
def narrow (most : Nat) : (bound : Nat) → List Nat → List Nat
  | 0, widths => widths
  | n + 1, widths =>
    let excess := total widths - most
    let widest := widths.foldl max 0
    let second := (widths.filter (· ≠ widest)).foldl max 0
    if excess = 0 ∨ widest = second then widths
    else
      let chosen := widths.map fun w => (w, w == widest)
      let count := (widths.filter (· = widest)).length
      narrow most n (takeEvenly (min excess (widest - second)) excess count chosen)

/-- Takes what is too much from all columns. -/
def shrink (most : Nat) (widths : List Nat) : List Nat :=
  let excess := total widths - most
  let rec go (total count : Nat) : List Nat → List Nat
    | [] => []
    | w :: rest =>
      if w = 0 then w :: go total count rest
      else
        let share := min w (Binary64.roundDiv total count)
        (w - share) :: go (total - share) (count - 1) rest
  go excess (widths.filter (· ≠ 0)).length widths

/-- The columns that a cell needs. -/
def Cell.need (c : Cell) : Nat :=
  ((c.content.splitOn '\n').map cells).foldl max 0

/-- The cells of a column, its heading first. -/
def column (t : Table) (n : Nat) : List Cell :=
  (t.headings :: t.rows).filterMap fun row => row[n]?

/-- The widths of the columns, the spaces around the cells included, in a table
    of at most `width` columns of the terminal. -/
def columnWidths (width : Nat) (t : Table) : List Nat :=
  let count := t.headings.length
  let most := width - (count + 1)
  let natural := (List.range count).map fun n =>
    let (left, right) := t.frame.padding n count
    let need := ((t.column n).map Cell.need).foldl max 0 + left + right
    max 1 (min need most)
  if total natural ≤ most then natural
  else
    let narrowed := narrow most (total natural) natural
    if total narrowed ≤ most then narrowed else shrink most narrowed

/-- A horizontal line of the frame. -/
def drawLine (widths : List Nat) (chars : Char × Char × Char × Char) : Line :=
  let (left, fill, divider, right) := chars
  left :: [divider].intercalate (widths.map fun w => List.replicate w fill) ++ [right]

/-- The lines of a row. -/
def drawRow (t : Table) (widths : List Nat) (chars : Char × Char × Char) (row : List Cell) :
    List Line :=
  let (left, divider, right) := chars
  let count := t.headings.length
  let cellsOfRow := (List.range count).map fun n =>
    let w := widths.getD n 0
    let (before, after) := t.frame.padding n count
    let inner := w - before - after
    let cell := row.getD n ⟨[], .left⟩
    let lines := (block inner .ellipsis cell.align cell.content).map fun l =>
      List.replicate before ' ' ++ l ++ List.replicate after ' '
    (w, lines)
  let height := (cellsOfRow.map fun c => c.2.length).foldl max 1
  (List.range height).map fun k =>
    let parts := cellsOfRow.map fun c => c.2.getD k (List.replicate c.1 ' ')
    left :: [divider].intercalate parts ++ [right]

/-- The lines of a table in a space of `width` columns. -/
def draw (width : Nat) (t : Table) : List Line :=
  let widths := t.columnWidths width
  drawLine widths t.frame.top :: t.drawRow widths t.frame.head t.headings
    ++ drawLine widths t.frame.underHead :: t.rows.flatMap (t.drawRow widths t.frame.body)
    ++ [drawLine widths t.frame.bottom]

/-- The columns that a table takes. -/
def totalWidth (width : Nat) (t : Table) : Nat :=
  total (t.columnWidths width) + t.headings.length + 1

end Table

end Parley.Terminal

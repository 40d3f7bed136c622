import Parley.Markdown.Block
import Parley.Terminal.Table

/-!
# Markdown on the terminal

A Markdown document is shown block by block, from top to bottom. Blocks inside
of lists and quotes become lines that are indented or marked (`lines`).

Between the blocks of a document there are empty lines. One is due after each
block, but it is shown only before the next one, so that nothing follows the
last. Pictures are shown as soon as they are read, before the text around them,
and no line ends after them (`Sheet.readFragments`). What is inside of a block
leaves an empty line due as well, which is shown before the block itself.
-/

namespace Parley.Terminal

open Markdown (Block Fragment ColumnAlign)

/-- The picture that stands for pictures. -/
def pictureSign : List Char := "🌆 ".toList

/-- The text of fragments. -/
def textOf (fragments : List Fragment) : List Char :=
  sanitized (fragments.flatMap fun f => match f with
    | .text cs => cs
    | .image .. | .html => [])

/-- The last part of a destination, its slashes at either end aside. -/
def lastPart (destination : List Char) : List Char :=
  let inner := ((destination.dropWhile (· = '/')).reverse.dropWhile (· = '/')).reverse
  (inner.splitOn '/').getLast?.getD []

/-- What is shown of a picture: its label, or a part of its destination. -/
def pictureText (label destination : List Char) : List Char :=
  let name := if (sanitized label).isEmpty then lastPart destination else label
  pictureSign ++ sanitized name ++ [' ']

/-! ### Blocks -/

/-- The text of code is kept as it is but for the blanks at its end. -/
def codeLines (width : Nat) (cs : List Char) : List Line :=
  let sources := (Text.trimRight (sanitized cs)).splitOn '\n'
  let wrapped := sources.flatMap fun l => block (width - 2) .fold .left (expandTabs 4 0 l)
  [] :: wrapped.map (' ' :: ·) ++ [[]]

def alignOf : ColumnAlign → Align
  | .plain | .left => .left
  | .center => .center
  | .right => .right

/-- A Markdown table as a table of the terminal. -/
def tableOf (columns : List ColumnAlign) (head : List (List Fragment))
    (rows : List (List (List Fragment))) : Table :=
  let row (cells : List (List Fragment)) : List Cell :=
    List.zipWith (fun content column => ⟨textOf content, alignOf column⟩) cells columns
  ⟨.simple, row head, rows.map row⟩

/-- Lines behind a first margin and those after it behind another one. -/
def behind (first rest : List Char) : List Line → List Line
  | [] => []
  | l :: ls => (first ++ l) :: ls.map (rest ++ ·)

/-- The mark of an item without a number. -/
def bullet : List Char := " • ".toList

/-- The mark at the left of a quote. -/
def quoteMark : List Char := "▌ ".toList

/-- The columns for the numbers up to `last` and the spaces around them. -/
def numberWidth (last : Nat) : Nat :=
  (toString last).length + 2

/-- A number in its columns. -/
def numeral (width n : Nat) : List Char :=
  Align.right.fill (width - 1) (toString n).toList ++ [' ']

mutual

/-- The lines of a block in a space of `width` columns; no space shows
    nothing. -/
def blockLines (width : Nat) (b : Block) : List Line :=
  if width = 0 then []
  else
    match b with
    | .paragraph content => block width .fold .left (textOf content)
    | .heading level content =>
      block width .fold (if level = 1 then .center else .left) (textOf content)
    | .code cs => codeLines width cs
    | .rule => [List.replicate width '-', []]
    | .html => []
    | .quote blocks => (allLines (width - 4) blocks).map (quoteMark ++ ·)
    | .list none items => itemLines width items
    | .list (some start) items =>
      numberedLines width (numberWidth (start + items.length)) start items
    | .table columns head rows => (tableOf columns head rows).draw width

/-- The lines of blocks that follow each other without empty lines. -/
def allLines (width : Nat) : List Block → List Line
  | [] => []
  | b :: bs => blockLines width b ++ allLines width bs

/-- The lines of items behind bullets. -/
def itemLines (width : Nat) : List (List Block) → List Line
  | [] => []
  | item :: items =>
    behind bullet (List.replicate bullet.length ' ') (allLines (width - bullet.length) item)
      ++ itemLines width items

/-- The lines of items behind numbers from `n` on, which take `margin`
    columns. -/
def numberedLines (width margin n : Nat) : List (List Block) → List Line
  | [] => []
  | item :: items =>
    behind (numeral margin n) (List.replicate margin ' ') (allLines (width - margin) item)
      ++ numberedLines width margin (n + 1) items

end

/-! ### Documents -/

/-- What has been shown of a document. -/
structure Sheet where
  /-- The columns of the terminal. -/
  width : Nat
  shown : List Char
  /-- An empty line is shown before anything else. -/
  lineDue : Bool

namespace Sheet

def add (s : Sheet) (cs : List Char) : Sheet :=
  { s with shown := s.shown ++ cs }

/-- Shows the line that is due; it stays due. -/
def spaced (s : Sheet) : Sheet :=
  if s.lineDue then s.add ['\n'] else s

def due (isDue : Bool) (s : Sheet) : Sheet :=
  { s with lineDue := isDue }

/-- Reads something that shows nothing by itself. -/
def readNothing (s : Sheet) : Sheet :=
  s.spaced.due true

def readFragment (s : Sheet) : Fragment → Sheet
  | .text _ => s
  | .html => s.readNothing
  | .image label destination =>
    let text := wrap s.width .fold (pictureText label destination)
    (s.spaced.add (['\n'].intercalate text)).due false

/-- Reads the fragments of a text. -/
def readFragments (s : Sheet) : List Fragment → Sheet
  | [] => s.readNothing
  | content => content.foldl readFragment s

/-- Reads the cells of a row. -/
def readRow (s : Sheet) (cells : List (List Fragment)) : Sheet :=
  cells.foldl (fun s content => (s.readFragments content).due true) s

mutual

/-- Reads what is inside of a block. -/
def readInside (s : Sheet) : Block → Sheet
  | .paragraph content => s.readFragments content
  | .heading _ content => s.readFragments content
  | .code _ | .rule | .html => s
  | .quote blocks => s.readNested blocks
  | .list _ items => s.readItems items
  | .table _ head rows => (rows.foldl readRow (s.readRow head)).due true

/-- Reads blocks inside of a block. -/
def readNested (s : Sheet) : List Block → Sheet
  | [] => s
  | b :: bs =>
    let isDue := match b with
      | .rule => false
      | _ => true
    ((s.readInside b).due isDue).readNested bs

def readItems (s : Sheet) : List (List Block) → Sheet
  | [] => s
  | item :: items => ((s.readNested item).due true).readItems items

end

/-- Reads and shows a block of the document. -/
def readBlock (s : Sheet) (b : Block) : Sheet :=
  let isDue := match b with
    | .rule => false
    | _ => true
  let lines := (blockLines s.width b).flatMap fun l => l ++ ['\n']
  ((s.readInside b).spaced.add lines).due isDue

/-- What is shown of a document, no line of it wider than the terminal. -/
def ofBlocks (width : Nat) (blocks : List Block) : List Char :=
  let s := blocks.foldl readBlock ⟨width, [], false⟩
  ['\n'].intercalate ((s.shown.splitOn '\n').map (cut width .fold))

end Sheet

/-- What is shown of a Markdown text. -/
def markdown (width : Nat) (cs : List Char) : List Char :=
  Sheet.ofBlocks width (Block.ofText cs)

end Parley.Terminal

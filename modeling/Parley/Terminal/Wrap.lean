import Parley.Terminal.Width
import Parley.Text.Blank

/-!
# Wrapping text to a width

A line that is too wide is broken between words (`wrapLine`). Blanks belong to
the word before them, and those at the beginning of a line to its first word.
A word that is too wide for any line is folded: it starts a line of its own and
goes on over as many lines as it needs. Where folding is not wanted, it is cut
and marked by an ellipsis.
-/

namespace Parley.Terminal

/-- What becomes of a word that is too wide. -/
inductive Overflow where
  | fold
  | ellipsis
  deriving DecidableEq, Repr

/-- The characters up to the end of the first word and the blanks after it, and
    what follows them; blanks alone are no word. -/
def spanWord (cs : List Char) : Option (List Char × List Char) :=
  let before := cs.takeWhile Text.isBlank
  let rest := cs.drop before.length
  let word := rest.takeWhile fun c => !Text.isBlank c
  let after := (rest.drop word.length).takeWhile Text.isBlank
  if word.isEmpty then none
  else some (before ++ word ++ after, rest.drop (word.length + after.length))

/-- The words of a line; `bound` is at least the number of its characters. -/
def words : (bound : Nat) → List Char → List (List Char)
  | 0, _ => []
  | n + 1, cs =>
    match spanWord cs with
    | some (word, rest) => word :: words n rest
    | none => []

/-- Cuts characters into pieces of at most `width` columns; `piece` is the piece
    that is being filled, the last character first, and takes `used` columns. -/
def chop (width used : Nat) (piece : List Char) : List Char → List (List Char)
  | [] => [piece.reverse]
  | c :: cs =>
    if used + cell c ≤ width then chop width (used + cell c) (c :: piece) cs
    else piece.reverse :: chop width (cell c) [c] cs

/-- A line that is being filled with words. -/
structure Filling where
  /-- The lines before it. -/
  done : List (List Char)
  line : List Char
  /-- The columns that count as taken. -/
  used : Nat

namespace Filling

/-- Ends the line, unless nothing stands on it. -/
def flush (f : Filling) : Filling :=
  if f.line.isEmpty then f else ⟨f.done ++ [f.line], [], 0⟩

/-- Adds a word where it fits, or on a line of its own. -/
def add (width : Nat) (overflow : Overflow) (f : Filling) (word : List Char) : Filling :=
  let size := cells (Text.trimRight word)
  if f.used + size ≤ width then
    { f with line := f.line ++ word, used := f.used + cells word }
  else if size ≤ width then
    let f := f.flush
    ⟨f.done, f.line ++ word, cells word⟩
  else
    let f := f.flush
    match overflow with
    | .ellipsis => ⟨f.done, f.line ++ word, cells word⟩
    | .fold =>
      let pieces := chop width 0 [] word
      let last := pieces.getLast?.getD []
      ⟨f.done ++ pieces.dropLast, last, cells last⟩

def lines (f : Filling) : List (List Char) :=
  f.done ++ [f.line]

end Filling

/-- Replaces each tab by the spaces up to the next column that is a multiple of
    `size`, one at least. -/
def expandTabs (size column : Nat) : List Char → List Char
  | [] => []
  | c :: cs =>
    if c = '\t' then
      let n := size - column % size
      List.replicate n ' ' ++ expandTabs size (column + n) cs
    else c :: expandTabs size (column + cell c) cs

/-- Cuts a line to a width, marking the cut by an ellipsis if that is wanted. -/
def cut (width : Nat) (overflow : Overflow) (line : List Char) : List Char :=
  if cells line ≤ width then line
  else
    match overflow with
    | .fold => fitted width line
    | .ellipsis => fitted (width - 1) line ++ ['…']

/-- Drops blanks at the end of a line as far as it has more than `width`
    characters. -/
def dropExcessBlanks (width : Nat) (line : List Char) : List Char :=
  let blanks := (line.reverse.takeWhile Text.isBlank).length
  line.take (line.length - min blanks (line.length - width))

/-- The lines of at most `width` columns that a line becomes. -/
def wrapLine (width : Nat) (overflow : Overflow) (line : List Char) : List (List Char) :=
  let line := expandTabs 8 0 line
  let ws := words line.length line
  let filled :=
    if ws.isEmpty then [line]
    else (ws.foldl (Filling.add width overflow) ⟨[], [], 0⟩).lines
  filled.map fun l => cut width overflow (dropExcessBlanks width l)

/-- The lines of at most `width` columns that a text of several lines becomes. -/
def wrap (width : Nat) (overflow : Overflow) (cs : List Char) : List (List Char) :=
  (cs.splitOn '\n').flatMap (wrapLine width overflow)

/-- A character that no terminal text keeps: bell, backspace, vertical tab, form
    feed and carriage return. -/
def isStripped (c : Char) : Bool :=
  c = '\x07' || c = '\x08' || c = '\x0b' || c = '\x0c' || c = '\r'

/-- The characters that a terminal text keeps. -/
def sanitized (cs : List Char) : List Char :=
  cs.filter fun c => !isStripped c

end Parley.Terminal

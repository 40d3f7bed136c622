import Parley.Terminal.Wrap

/-!
# Lines, panels and rules

What a terminal shows is a list of lines. A text becomes the lines it is wrapped
to; a panel draws a frame with a title around it, over the whole width.
-/

namespace Parley.Terminal

abbrev Line := List Char

/-- Where a text stands in a wider space. -/
inductive Align where
  | left
  | center
  | right
  deriving DecidableEq, Repr

/-- The line in a space of `width` columns, filled up by spaces. -/
def Align.fill (width : Nat) (line : Line) : Align → Line
  | .left => line ++ List.replicate (width - cells line) ' '
  | .center =>
    let line := Text.trimRight line
    let before := (width - cells line) / 2
    List.replicate before ' ' ++ line ++ List.replicate (width - cells line - before) ' '
  | .right =>
    let line := Text.trimRight line
    List.replicate (width - cells line) ' ' ++ line

/-- The lines of a text in a space of `width` columns. -/
def block (width : Nat) (overflow : Overflow) (align : Align) (cs : List Char) : List Line :=
  (wrap width overflow cs).map fun line => align.fill width line

/-- A title between two lines, in a space of `width` columns. -/
def titled (width : Nat) (title : List Char) : Line :=
  let title := cut width .fold (' ' :: title ++ [' '])
  let free := width - cells title
  List.replicate (free / 2) '─' ++ title ++ List.replicate (free - free / 2) '─'

/-- A frame of `width` columns with a title around a text. -/
def panel (width : Nat) (title cs : List Char) : List Line :=
  let body := (block (width - 4) .fold .left cs).map fun line => '│' :: ' ' :: line ++ [' ', '│']
  ('╭' :: '─' :: titled (width - 4) title ++ ['─', '╮'])
    :: body ++ ['╰' :: List.replicate (width - 2) '─' ++ ['╯']]

end Parley.Terminal

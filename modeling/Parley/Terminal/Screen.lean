import Parley.Terminal.Markup
import Parley.Terminal.Sheet
import Parley.Terminal.ValueLayout

/-!
# Screens

A screen draws what a program prints: texts without markup, marked-up texts on
lines of their own, in a panel or in a table, Markdown documents, prompts and
values. What it draws are the characters that come to stand on it. Drawing what
is marked up may fail.

`Screen.ofWidth` is a screen of some columns and without colours.
-/

namespace Parley.Terminal

structure Screen where
  /-- A text without markup, on lines of its own. -/
  plain : List Char → List Char
  /-- A marked-up text, on lines of its own. -/
  line : List Char → Except Misuse (List Char)
  /-- A marked-up text in a panel with a title. -/
  panel : (title : String) → List Char → Except Misuse (List Char)
  /-- A table under a title, with headings and rows of marked-up cells. -/
  table : (title : String) → (headings : List String) → (rows : List (List String)) →
    Except Misuse (List Char)
  document : (source : String) → Except Misuse (List Char)
  /-- A prompt, behind which an answer is typed. -/
  prompt : List Char → List Char
  value : Value → List Char

namespace Screen

def ofLines (lines : List Line) : List Char :=
  lines.flatMap fun l => l ++ ['\n']

/-- Characters wrapped to a width. -/
def wrapped (width : Nat) (cs : List Char) : List Char :=
  ofLines (wrap width .fold cs)

/-- The cells of rows as they show, column by column. -/
def shownColumns (count : Nat) (rows : List (List String)) :
    Except Misuse (List (List (List Char))) :=
  (List.range count).mapM fun n => rows.mapM fun row => Markup.shown (row.getD n "").toList

/-- The table of cells that show what the columns hold. -/
def tableOf (headings : List String) (count : Nat) (columns : List (List (List Char))) : Table :=
  let row (n : Nat) : List Cell := columns.map fun column => ⟨column.getD n [], .left⟩
  ⟨.heavyHead, headings.map fun s => ⟨s.toList, .left⟩, (List.range count).map row⟩

/-- A screen of `width` columns and without colours. -/
def ofWidth (width : Nat) : Screen where
  plain := wrapped width
  line cs := wrapped width <$> Markup.shown cs
  panel title cs := (fun out => ofLines (Terminal.panel width title.toList out)) <$> Markup.shown cs
  table title headings rows := do
    let t := tableOf headings rows.length (← shownColumns headings.length rows)
    let above := block (t.totalWidth width) .fold .center title.toList
    pure (ofLines (above ++ t.draw width))
  document source := .ok (markdown width source.toList)
  prompt cs := ['\n'].intercalate (wrap width .fold (sanitized cs))
  value v := (valueLines width v).flatMap fun l => wrapped width l.toList

end Screen

end Parley.Terminal

/-!
# Lines

The lines of a text, each of which ends with a line feed, a carriage return or
both; what follows the last of these is a line too, unless it is empty.
-/

namespace Parley.Text

/-- The lines of characters, of which `line` are read already, the last one
    first. -/
def linesFrom (line : List Char) : List Char → List String
  | [] => if line.isEmpty then [] else [String.ofList line.reverse]
  | '\r' :: '\n' :: cs => String.ofList line.reverse :: linesFrom [] cs
  | c :: cs =>
    if c = '\n' ∨ c = '\r' then String.ofList line.reverse :: linesFrom [] cs
    else linesFrom (c :: line) cs

/-- The lines of a text. -/
def lines (s : String) : List String :=
  linesFrom [] s.toList

end Parley.Text

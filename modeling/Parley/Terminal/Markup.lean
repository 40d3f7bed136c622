import Parley.Fault
import Parley.Terminal.Emoji
import Parley.Terminal.Style

/-!
# Console markup

Text for the terminal may carry tags in brackets, which style what stands
between them: `[bold]` opens a style, `[/bold]` closes the last open style of
that name and `[/]` the last one of all. A backslash before a tag makes it
plain text. Brackets around anything that does not begin like a tag are plain
text too.

On a terminal without colours nothing is left of the styles, so what a text
shows is its characters without the tags (`Markup.shown`). A tag that closes
nothing makes the text invalid, and so does a style whose name cannot be read.

Behind an equals sign a tag may carry parameters: the place that a link leads to,
or what a handler, whose name begins with `@`, is given. They are taken as they
are (`tagName`), and not read as values.
-/

namespace Parley.Terminal.Markup

/-- A piece of marked-up text. -/
inductive Piece where
  | plain (cs : List Char)
  | tag (content : List Char)
  deriving DecidableEq, Repr

/-- A tag can begin with the character. -/
def isTagStart (c : Char) : Bool :=
  ('a' ≤ c && c ≤ 'z') || c = '#' || c = '/' || c = '@'

/-- The tag that these characters after an opening bracket begin with, and what
    follows it. -/
def tagAfterBracket (cs : List Char) : Option (List Char × List Char) :=
  match cs with
  | [] => none
  | c :: rest =>
    let tail := rest.takeWhile fun d => d ≠ '[' ∧ d ≠ ']'
    let after := rest.drop tail.length
    if isTagStart c ∧ after.head? = some ']' then some (c :: tail, after.drop 1) else none

/-- The tag at the beginning, after any number of backslashes. -/
def tagAt (cs : List Char) : Option (Nat × List Char × List Char) :=
  let slashes := (cs.takeWhile (· = '\\')).length
  match cs.drop slashes with
  | '[' :: rest => (tagAfterBracket rest).map fun t => (slashes, t.1, t.2)
  | _ => none

/-- The pieces of a tag after backslashes: two of these stand for one, and an
    odd one takes the tag's meaning. -/
def tagPieces (slashes : Nat) (content : List Char) : List Piece :=
  (if slashes < 2 then [] else [.plain (List.replicate (slashes / 2) '\\')])
    ++ (if slashes % 2 = 1 then [.plain ('[' :: content ++ [']'])] else [.tag content])

def plainPiece (reversed : List Char) : List Piece :=
  if reversed.isEmpty then [] else [.plain reversed.reverse]

/-- The pieces of a text, `before` being the plain characters before it, the
    last first; `bound` is at least the number of its characters. -/
def piecesFrom (bound : Nat) (before : List Char) (cs : List Char) : List Piece :=
  match bound, cs with
  | 0, _ => plainPiece before
  | _ + 1, [] => plainPiece before
  | n + 1, c :: rest =>
    match tagAt cs with
    | some (slashes, content, after) =>
      plainPiece before ++ tagPieces slashes content ++ piecesFrom n [] after
    | none => piecesFrom n (c :: before) rest

/-- The pieces of a text. -/
def pieces (cs : List Char) : List Piece :=
  piecesFrom (cs.length + 1) [] cs

/-- Plain characters with their escaped brackets and names of pictures
    replaced. -/
def unescape : List Char → List Char
  | [] => []
  | '\\' :: '[' :: cs => '[' :: unescape cs
  | c :: cs => c :: unescape cs

/-- The name in a tag, without its parameters. -/
def tagName (content : List Char) : List Char :=
  content.takeWhile (· ≠ '=')

/-- The styles that are open after a tag, the last one first. -/
def openAfter (stack : List String) (content : List Char) : Except Misuse (List String) :=
  match tagName content with
  | '/' :: name => do
    let name := Text.stripped (String.ofList name)
    if name.isEmpty then
      match stack with
      | [] => .error .markup
      | _ :: rest => .ok rest
    else
      let name ← Style.normalize name
      if stack.contains name then .ok (stack.erase name) else .error .markup
  | name => do
    let name ← Style.normalize (String.ofList name)
    pure (name :: stack)

/-- What pieces show, with the styles of `stack` open before them. -/
def shownPieces (stack : List String) : List Piece → Except Misuse (List Char)
  | [] => .ok []
  | .plain cs :: rest => do
    pure (sanitized (Emoji.replace (unescape cs)) ++ (← shownPieces stack rest))
  | .tag content :: rest => do shownPieces (← openAfter stack content) rest

/-- What marked-up characters show. -/
def shown (cs : List Char) : Except Misuse (List Char) :=
  shownPieces [] (pieces cs)

end Parley.Terminal.Markup

import Parley.Markdown.Inline

/-!
# The blocks of a document

A Markdown document is a sequence of blocks: paragraphs, headings, code, rules,
tables, and lists and quotes that hold blocks themselves (`Block.ofText`).

The blocks are found line by line. A line belongs to a list item if it is
indented as far as the item's content, and to a quote if it begins with its
mark; a paragraph also goes on over lines that are neither, unless something
else begins on them (`interrupts`).
-/

namespace Parley.Markdown

/-- Where the text of a table's column stands. -/
inductive ColumnAlign where
  | plain
  | left
  | center
  | right
  deriving DecidableEq, Repr

inductive Block where
  | paragraph (content : List Fragment)
  | heading (level : Nat) (content : List Fragment)
  | code (content : List Char)
  | rule
  | html
  | quote (blocks : List Block)
  /-- A list of items, numbered from `start` on if that is given. -/
  | list (start : Option Nat) (items : List (List Block))
  | table (columns : List ColumnAlign) (head : List (List Fragment))
      (rows : List (List (List Fragment)))

/-- A line of a block: its indentation in the block, which is negative if the
    line is outside of it, and what follows. -/
structure SourceLine where
  indent : Int
  body : List Char
  /-- The line lacks the mark of a quote, so that it can only go on with a
      paragraph. -/
  lazy : Bool
  deriving Repr

namespace SourceLine

def isEmpty (l : SourceLine) : Bool := l.body.isEmpty

/-- The columns of the blanks that characters begin with, from a column on. -/
def blankColumns (column : Nat) : List Char → Nat
  | ' ' :: cs => blankColumns (column + 1) cs + 1
  | '\t' :: cs => blankColumns (column + (4 - column % 4)) cs + (4 - column % 4)
  | _ => 0

/-- The line of characters that begin at a column of the document and have
    `indent` columns of indentation before them already. -/
def ofChars (column : Nat) (cs : List Char) : SourceLine :=
  ⟨blankColumns column cs, cs.dropWhile Inline.isSpace, false⟩

/-- The line as it is seen from `columns` columns further in. -/
def shift (columns : Nat) (l : SourceLine) : SourceLine :=
  { l with indent := l.indent - columns }

/-- The line begins too far in for anything but indented code. -/
def isDeep (l : SourceLine) : Bool := 4 ≤ l.indent

/-- The line with its indentation written as spaces, from `columns` columns on. -/
def textFrom (columns : Nat) (l : SourceLine) : List Char :=
  List.replicate (l.indent - columns).toNat ' ' ++ l.body

end SourceLine

namespace Block

/-! ### What can begin on a line -/

/-- The line is a rule: three or more equal marks with blanks between them. -/
def isRule (l : SourceLine) : Bool :=
  match l.body with
  | c :: _ =>
    (c = '*' || c = '-' || c = '_') && l.body.all (fun d => d = c || Inline.isSpace d)
      && 3 ≤ (l.body.filter (· = c)).length
  | [] => false

/-- The level of the heading that the line is, and its text. -/
def heading? (l : SourceLine) : Option (Nat × List Char) :=
  let level := (l.body.takeWhile (· = '#')).length
  let rest := l.body.drop level
  if level = 0 || 6 < level || !(rest.isEmpty || Inline.isSpace (rest.headD ' ')) then none
  else
    let text := (rest.reverse.dropWhile Inline.isSpace).reverse
    let stem := (text.reverse.dropWhile (· = '#')).reverse
    let closed := stem.isEmpty || Inline.isSpace (stem.getLast?.getD 'x')
    some (level, Text.trim (if closed then stem else text))

/-- The marker of a code fence and its length. -/
def fence? (l : SourceLine) : Option (Char × Nat) :=
  match l.body with
  | c :: _ =>
    let size := (l.body.takeWhile (· = c)).length
    if (c = '`' ∨ c = '~') ∧ 3 ≤ size ∧ !(c = '`' && (l.body.drop size).contains '`') then
      some (c, size)
    else none
  | [] => none

/-- The marker of a list item. -/
structure Marker where
  /-- The number of an ordered item. -/
  number : Option Nat
  /-- The character at the marker's end, the same for all items of a list. -/
  sign : Char
  width : Nat

/-- The marker that a line begins with. -/
def marker? (l : SourceLine) : Option Marker :=
  let closes (cs : List Char) : Bool := cs.isEmpty || Inline.isSpace (cs.headD ' ')
  match l.body with
  | [] => none
  | c :: rest =>
    if (c = '*' ∨ c = '-' ∨ c = '+') ∧ closes rest then some ⟨none, c, 1⟩
    else
      let digits := l.body.takeWhile Char.isDigit
      match l.body.drop digits.length with
      | sign :: after =>
        if (sign = '.' ∨ sign = ')') ∧ 1 ≤ digits.length ∧ digits.length ≤ 9 ∧ closes after then
          some ⟨some (digits.foldl (fun n d => 10 * n + (d.toNat - 0x30)) 0), sign,
            digits.length + 1⟩
        else none
      | [] => none

/-- A list can begin on the line although a paragraph is open: its first item
    is not empty, and its first number is one. -/
def listInterrupts (l : SourceLine) : Bool :=
  match marker? l with
  | some m =>
    if 0 ≤ l.indent then m.number.getD 1 = 1 && (l.body.drop m.width).any fun c => !Inline.isSpace c
    else true
  | none => false

/-- The names of HTML tags that begin a block. -/
def blockTags : List String :=
  [ "address", "article", "aside", "blockquote", "body", "center", "details", "dialog", "dd",
    "dir", "div", "dl", "dt", "fieldset", "figcaption", "figure", "footer", "form", "h1", "h2",
    "h3", "h4", "h5", "h6", "head", "header", "hr", "html", "iframe", "legend", "li", "link",
    "main", "menu", "nav", "ol", "p", "section", "summary", "table", "tbody", "td", "tfoot", "th",
    "thead", "title", "tr", "track", "ul" ]

/-- The name of the tag that characters begin with, after its bracket. -/
def tagName (cs : List Char) : String :=
  let cs := if cs.head? = some '/' then cs.drop 1 else cs
  (String.ofList (cs.takeWhile Char.isAlphanum)).toLower

/-- The characters contain a mark. -/
def hasMark (mark : String) (cs : List Char) : Bool :=
  (Inline.afterMark mark.toList cs).isSome

/-- How an HTML block that begins on the line ends: on a line with a mark, or
    before an empty line. The last kind does not interrupt a paragraph. -/
inductive HtmlEnd where
  | mark (marks : List String)
  | empty (interrupts : Bool)

def html? (l : SourceLine) : Option HtmlEnd :=
  match l.body with
  | '<' :: rest =>
    let name := tagName rest
    let afterName := rest.drop (name.length + if rest.head? = some '/' then 1 else 0)
    let ends := afterName.isEmpty || Text.isBlank (afterName.headD ' ')
      || afterName.head? = some '>' || "/>".toList.isPrefixOf afterName
    if ["script", "pre", "style", "textarea"].contains name && rest.head? ≠ some '/' && ends then
      some (.mark ["</script>", "</pre>", "</style>", "</textarea>"])
    else if "!--".toList.isPrefixOf rest then some (.mark ["-->"])
    else if rest.head? = some '?' then some (.mark ["?>"])
    else if "![CDATA[".toList.isPrefixOf rest then some (.mark ["]]>"])
    else if rest.head? = some '!' && (rest.drop 1).head?.any Char.isAlpha then some (.mark [">"])
    else if blockTags.contains name && ends then some (.empty true)
    else
      match Inline.htmlEnd? rest with
      | some after => if (Text.trim after).isEmpty then some (.empty false) else none
      | none => none
  | _ => none

/-! ### Tables -/

/-- The cells of a row, the bars between them aside; a backslash keeps a bar. -/
def splitRow (cell : List Char) : List Char → List (List Char)
  | [] => [cell.reverse]
  | '\\' :: '|' :: cs => splitRow ('|' :: cell) cs
  | c :: cs => if c = '|' then cell.reverse :: splitRow [] cs else splitRow (c :: cell) cs

/-- The cells of a line, without the empty ones outside of its outer bars. -/
def rowCells (l : SourceLine) : List (List Char) :=
  let parts := splitRow [] (Text.trim l.body)
  let parts := if parts.head? = some [] then parts.drop 1 else parts
  let parts := if parts.getLast? = some [] then parts.dropLast else parts
  parts.map Text.trim

/-- What a cell of the line under a table's head says about its column. -/
def columnAlign? (cs : List Char) : Option ColumnAlign :=
  let atStart := cs.head? = some ':'
  let atEnd := cs.getLast? = some ':' && 1 < cs.length
  let dashes := if atStart then cs.drop 1 else cs
  let dashes := if atEnd then dashes.dropLast else dashes
  if dashes.isEmpty || dashes.any (· ≠ '-') then none
  else if atStart && atEnd then some .center
  else if atStart then some .left
  else if atEnd then some .right
  else some .plain

/-- The columns of a table that begins on a line and the next one. -/
def tableColumns? (head : SourceLine) (next : Option SourceLine) : Option (List ColumnAlign) :=
  match next with
  | none => none
  | some under =>
    let isUnder := 0 ≤ under.indent && !under.isDeep && !under.lazy
      && under.body.all (fun c => "|-: \t".toList.contains c)
      && 2 ≤ under.body.length
      && !(under.body.head? = some '-' && Inline.isSpace (under.body.getD 1 'x'))
    if !isUnder || !head.body.contains '|' then none
    else
      let cells := splitRow [] (Text.trim under.body)
      let inner := cells.map Text.trim
      let inner := if inner.head? = some [] then inner.drop 1 else inner
      let inner := if inner.getLast? = some [] then inner.dropLast else inner
      match inner.mapM columnAlign? with
      | some columns =>
        if columns.length = (rowCells head).length ∧ columns ≠ [] then some columns else none
      | none => none

/-! ### Paragraphs -/

/-- Something other than a paragraph begins on the first of the lines. -/
def interrupts (isTableToo : Bool) : List SourceLine → Bool
  | [] => true
  | l :: rest =>
    !l.isDeep
      && ((fence? l).isSome || l.body.head? = some '>' || isRule l || listInterrupts l
        || (match html? l with
          | some (.mark _) | some (.empty true) => true
          | _ => false)
        || (heading? l).isSome
        || (isTableToo && (tableColumns? l rest.head?).isSome))

/-- The number of lines that go on with a paragraph. -/
def continuation : List SourceLine → Nat
  | [] => 0
  | l :: rest =>
    if l.isEmpty then 0
    else if l.lazy || l.isDeep then continuation rest + 1
    else if interrupts true (l :: rest) then 0
    else continuation rest + 1

/-- The level of the heading that the line underlines. -/
def underline? (l : SourceLine) : Option Nat :=
  let body := (l.body.reverse.dropWhile Inline.isSpace).reverse
  if l.lazy || l.indent < 0 || l.isDeep || body.isEmpty then none
  else if body.all (· = '=') then some 1
  else if body.all (· = '-') then some 2
  else none

/-- The number of lines after the first of a heading up to its underline, and
    the level. -/
def underlined (count : Nat) : List SourceLine → Option (Nat × Nat)
  | [] => none
  | l :: rest =>
    if l.isEmpty then none
    else if l.lazy || l.isDeep then underlined (count + 1) rest
    else
      match underline? l with
      | some level => some (count, level)
      | none => if interrupts false (l :: rest) then none else underlined (count + 1) rest

/-- The text of lines, without the indentation that they have. -/
def joined (ls : List SourceLine) : List Char :=
  Text.trim (['\n'].intercalate (ls.map SourceLine.body))

/-- The definition of a link's label at the beginning of a text, and what
    follows it. -/
def definition? (cs : List Char) : Option ((String × List Char) × List Char) :=
  match cs with
  | '[' :: rest =>
    match Inline.labelEnd [] (rest.length + 1) false 0 rest with
    | some (label, ':' :: after) =>
      let start := Inline.skipBlanks after
      match Inline.destination? start with
      | some (destination, tail) =>
        let endOfLine (cs : List Char) : Option (List Char) :=
          match cs.dropWhile Inline.isSpace with
          | [] => some []
          | '\n' :: rest => some rest
          | _ => none
        let gap := Inline.skipBlanks tail
        let titled :=
          if gap.length < tail.length then (Inline.afterTitle gap).bind endOfLine else none
        let key := Inline.labelKey label
        if key.isEmpty then none
        else (titled.or (endOfLine tail)).map fun rest => ((key, destination), rest)
      | none => none
    | _ => none
  | _ => none

/-- The definitions at the beginning of a text, and what follows them; `bound`
    is at least their number. -/
def definitions : (bound : Nat) → List Char → References × List Char
  | 0, cs => ([], cs)
  | n + 1, cs =>
    match definition? cs with
    | some (d, rest) =>
      let (ds, rest) := definitions n rest
      (d :: ds, rest)
    | none => ([], cs)

/-! ### Blocks -/

/-- A block whose text is not read yet. -/
inductive Raw where
  | paragraph (cs : List Char)
  | heading (level : Nat) (cs : List Char)
  | code (cs : List Char)
  | rule
  | html
  | quote (blocks : List Raw)
  | list (start : Option Nat) (items : List (List Raw))
  | table (columns : List ColumnAlign) (head : List (List Char)) (rows : List (List (List Char)))

def lines (ls : List (List Char)) : List Char :=
  ls.flatMap fun l => l ++ ['\n']

/-- The lines of indented code, their number and their text. -/
def indentedCode (ls : List SourceLine) : Nat × List Char :=
  let run := ls.takeWhile fun l => l.isEmpty || l.isDeep
  let kept := (run.reverse.dropWhile SourceLine.isEmpty).reverse
  (kept.length, lines (kept.map fun l => l.textFrom 4))

/-- The number of lines of a fenced block after its fence, that of its end
    included, and their text. -/
def fencedCode (mark : Char) (size indent : Nat) : List SourceLine → Nat × List Char
  | [] => (0, [])
  | l :: rest =>
    let run := (l.body.takeWhile (· = mark)).length
    if !l.isEmpty && l.indent < 0 then (0, [])
    else if !l.isDeep && size ≤ run && (l.body.drop run).all Inline.isSpace then (1, [])
    else
      let (n, cs) := fencedCode mark size indent rest
      (n + 1, l.textFrom indent ++ '\n' :: cs)

/-- The number of lines of an HTML block. -/
def htmlLines (ending : HtmlEnd) : List SourceLine → Nat
  | [] => 0
  | l :: rest =>
    match ending with
    | .mark marks =>
      if marks.any fun m => hasMark m (l.body.map Char.toLower) then 1
      else htmlLines ending rest + 1
    | .empty _ => if l.isEmpty || l.indent < 0 then 0 else htmlLines ending rest + 1

/-- The rows of a table. -/
def tableRows : List SourceLine → List SourceLine
  | [] => []
  | l :: rest =>
    if l.isEmpty || l.indent < 0 || l.isDeep || interrupts false (l :: rest) then []
    else l :: tableRows rest

/-- The lines of a quote, seen from inside it: those with its mark, and after
    those the ones that only a paragraph can go on with. -/
def quoteLines : List SourceLine → List SourceLine
  | [] => []
  | l :: rest =>
    if l.isEmpty then []
    else
      match l.body with
      | '>' :: cs =>
        if l.isDeep || l.indent < 0 then lazyLine l rest
        else
          let column := l.indent.toNat + 1
          let inner := SourceLine.ofChars column cs
          let indent := if inner.indent = 0 then 0 else inner.indent - 1
          { inner with indent := indent } :: quoteLines rest
      | _ => lazyLine l rest
where
  lazyLine (l : SourceLine) (rest : List SourceLine) : List SourceLine :=
    if interrupts false (l :: rest) then []
    else { l with indent := -1, lazy := true } :: quoteLines rest

/-- The first line of an item, without its marker, and the column at which the
    item's content begins. -/
def itemStart (l : SourceLine) (m : Marker) : SourceLine × Nat :=
  let column := l.indent.toNat + m.width
  let inner := SourceLine.ofChars column (l.body.drop m.width)
  let gap := inner.indent.toNat
  let gap := if inner.isEmpty || 4 < gap then 1 else gap
  ({ inner with indent := inner.indent - gap }, column + gap)

mutual

/-- The blocks at the beginning of the lines, up to a line that is outside, and
    the number of lines they take. `bound` limits the recursion. -/
def blocks (bound : Nat) (ls : List SourceLine) : List Raw × Nat :=
  match bound, ls with
  | 0, _ | _, [] => ([], 0)
  | n + 1, l :: rest =>
    let go (found : List Raw) (taken : Nat) : List Raw × Nat :=
      let (later, m) := blocks n (ls.drop taken)
      (found ++ later, taken + m)
    if l.isEmpty then go [] 1
    else if l.indent < 0 then ([], 0)
    else
      match tableColumns? l rest.head? with
      | some columns =>
        if l.isDeep then
          let (taken, cs) := indentedCode ls
          go [.code cs] taken
        else
          let rows := tableRows (rest.drop 1)
          let fit (cells : List (List Char)) : List (List Char) :=
            (List.range columns.length).map fun k => cells.getD k []
          go [.table columns (rowCells l) (rows.map fun r => fit (rowCells r))] (rows.length + 2)
      | none =>
        if l.isDeep then
          let (taken, cs) := indentedCode ls
          go [.code cs] taken
        else
          match fence? l with
          | some (mark, size) =>
            let (taken, cs) := fencedCode mark size l.indent.toNat rest
            go [.code cs] (taken + 1)
          | none =>
            if l.body.head? = some '>' then
              let (inner, taken) := blocks n (quoteLines ls)
              go [.quote inner] (max 1 taken)
            else if isRule l then go [.rule] 1
            else
              match marker? l with
              | some m =>
                let (items, taken) := listItems n m.number.isSome m.sign ls
                go [.list m.number items] (max 1 taken)
              | none =>
                match html? l with
                | some ending =>
                  let taken := match ending with
                    | .mark _ => htmlLines ending ls
                    | .empty _ => htmlLines ending rest + 1
                  go [.html] (max 1 taken)
                | none =>
                  match heading? l with
                  | some (level, cs) => go [.heading level cs] 1
                  | none =>
                    match underlined 0 rest with
                    | some (count, level) =>
                      go [.heading level (joined (ls.take (count + 1)))] (count + 2)
                    | none =>
                      let taken := continuation rest + 1
                      go [.paragraph (joined (ls.take taken))] taken

/-- The items of a list, and the number of lines they take. -/
def listItems (bound : Nat) (ordered : Bool) (sign : Char) (ls : List SourceLine) :
    List (List Raw) × Nat :=
  match bound, ls with
  | 0, _ | _, [] => ([], 0)
  | n + 1, l :: rest =>
    match marker? l with
    | none => ([], 0)
    | some m =>
      if l.indent < 0 || l.isDeep || m.number.isSome ≠ ordered || m.sign ≠ sign || isRule l then
        ([], 0)
      else
        let (first, offset) := itemStart l m
        let (item, taken) :=
          if first.isEmpty && (rest.head?.all SourceLine.isEmpty) then
            ([], min 2 ls.length)
          else blocks n (first :: rest.map (SourceLine.shift offset))
        let taken := max 1 taken
        let (later, more) := listItems n ordered sign (ls.drop taken)
        (item :: later, taken + more)

end

mutual

/-- The definitions of labels in blocks. -/
def labels : List Raw → References
  | [] => []
  | b :: rest =>
    let here := match b with
      | .paragraph cs => (definitions cs.length cs).1
      | .quote inner => labels inner
      | .list _ items => itemLabels items
      | _ => []
    here ++ labels rest

def itemLabels : List (List Raw) → References
  | [] => []
  | item :: rest => labels item ++ itemLabels rest

end

mutual

/-- The blocks with their text read. A paragraph of definitions is no block. -/
def read (refs : References) : List Raw → List Block
  | [] => []
  | b :: rest =>
    let text := Inline.parse refs
    let here : List Block := match b with
      | .paragraph cs =>
        let body := (definitions cs.length cs).2
        if body.isEmpty then [] else [.paragraph (text body)]
      | .heading level cs => [.heading level (text cs)]
      | .code cs => [.code cs]
      | .rule => [.rule]
      | .html => [.html]
      | .quote inner => [.quote (read refs inner)]
      | .list start items => [.list start (readItems refs items)]
      | .table columns head rows => [.table columns (head.map text) (rows.map (·.map text))]
    here ++ read refs rest

def readItems (refs : References) : List (List Raw) → List (List Block)
  | [] => []
  | item :: rest => read refs item :: readItems refs rest

end

/-- The line breaks of all systems as line feeds. -/
def normalizeBreaks : List Char → List Char
  | [] => []
  | '\r' :: '\n' :: cs => '\n' :: normalizeBreaks cs
  | c :: cs => (if c = '\r' then '\n' else if c = '\x00' then '\ufffd' else c) :: normalizeBreaks cs

/-- The blocks of a text. -/
def ofText (cs : List Char) : List Block :=
  let ls := ((normalizeBreaks cs).splitOn '\n').map (SourceLine.ofChars 0)
  let raw := (blocks (2 * cs.length + 4) ls).1
  read (labels raw) raw

end Block

end Parley.Markdown

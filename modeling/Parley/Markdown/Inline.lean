import Parley.Markdown.Entity.Names
import Parley.Text.Blank

/-!
# Text in paragraphs

The text of a Markdown paragraph or heading: runs of emphasis, code, links,
pictures, escapes and breaks. What is read here is what is left of the text when
its markup is taken away (`Inline.parse`): a list of fragments.

Emphasis is found in two steps. First each run of asterisks, underscores or
tildes is told whether it can open and close emphasis by the characters around
it; then each closer takes the nearest opener before it, and what is left over
is plain text (`resolve`).
-/

namespace Parley.Markdown

/-- A fragment of a paragraph's text. -/
inductive Fragment where
  | text (cs : List Char)
  /-- A picture, by its label as it is written. -/
  | image (label : List Char) (destination : List Char)
  | html
  deriving DecidableEq, Repr

/-- What the labels of links stand for. -/
abbrev References := List (String × List Char)

namespace Inline

def isAsciiPunctuation (c : Char) : Bool :=
  let n := c.toNat
  (0x21 ≤ n && n ≤ 0x2f) || (0x3a ≤ n && n ≤ 0x40) || (0x5b ≤ n && n ≤ 0x60)
    || (0x7b ≤ n && n ≤ 0x7e)

/-- A punctuation mark, of ASCII or of the common blocks beyond it. -/
def isPunctuation (c : Char) : Bool :=
  let n := c.toNat
  isAsciiPunctuation c || [0xa1, 0xa7, 0xab, 0xb6, 0xb7, 0xbb, 0xbf].contains n
    || (0x2010 ≤ n && n ≤ 0x2027) || (0x2030 ≤ n && n ≤ 0x205e) || (0x3001 ≤ n && n ≤ 0x3003)
    || (0x3008 ≤ n && n ≤ 0x3011) || (0x3014 ≤ n && n ≤ 0x301f)
    || (0xff01 ≤ n && n ≤ 0xff0f && n ≠ 0xff04 && n ≠ 0xff0b)

def isSpace (c : Char) : Bool :=
  c = ' ' || c = '\t'

/-- The characters in lower case with their blanks reduced to single spaces, by
    which labels are compared. -/
def labelKey (cs : List Char) : String :=
  let spaced := cs.map fun c => if Text.isBlank c then ' ' else c.toLower
  String.ofList ([' '].intercalate ((spaced.splitOn ' ').filter (· ≠ [])))

/-! ### Character references -/

/-- What a name between an ampersand and a semicolon stands for. -/
def entityOfName? (name : List Char) : Option (List Char) :=
  Entity.entries.findSome? fun entry =>
    let entry := entry.toList
    if name.isPrefixOf entry ∧ entry[name.length]? = some ' ' then
      some (entry.drop (name.length + 1))
    else none

/-- A code point that no character reference can name: a surrogate, one that is
    never a character, or a control. -/
def isUnnamable (n : Nat) : Bool :=
  (0xd800 ≤ n && n ≤ 0xdfff) || (0xfdd0 ≤ n && n ≤ 0xfdef) || 0xfffe ≤ n % 0x10000 || n ≤ 8
    || n = 0x0b || (0x0e ≤ n && n ≤ 0x1f) || (0x7f ≤ n && n ≤ 0x9f) || 0x10ffff < n

/-- The character of a code point; one that is none is shown as unknown. -/
def ofCodePoint (n : Nat) : Char :=
  if isUnnamable n then '\ufffd' else Char.ofNat n

def hexDigit? (c : Char) : Option Nat :=
  if c.isDigit then some (c.toNat - 0x30)
  else if 'a' ≤ c ∧ c ≤ 'f' then some (c.toNat - 0x61 + 10)
  else if 'A' ≤ c ∧ c ≤ 'F' then some (c.toNat - 0x41 + 10)
  else none

/-- The character reference after an ampersand. -/
def entity? (cs : List Char) : Option (List Char × List Char) :=
  let name := cs.takeWhile (· ≠ ';')
  match cs.drop name.length with
  | ';' :: rest =>
    match name with
    | '#' :: x :: ds =>
      let (base, digits) := if x = 'x' ∨ x = 'X' then (16, ds) else (10, x :: ds)
      let limit := if base = 16 then 6 else 7
      if digits.isEmpty || limit < digits.length then none
      else
        match digits.mapM hexDigit? with
        | some values =>
          if values.all (· < base) then
            some ([ofCodePoint (values.foldl (fun n d => base * n + d) 0)], rest)
          else none
        | none => none
    | name => (entityOfName? name).map fun cs => (cs, rest)
  | _ => none

/-! ### Code, destinations and tags -/

/-- The content up to the next run of exactly `size` backticks, and what follows
    it; `bound` is at least the number of characters. -/
def codeEnd (size bound : Nat) (content : List Char) (cs : List Char) :
    Option (List Char × List Char) :=
  match bound, cs with
  | 0, _ | _, [] => none
  | n + 1, c :: rest =>
    if c = '`' then
      let run := (cs.takeWhile (· = '`')).length
      if run = size then some (content.reverse, cs.drop run)
      else codeEnd size n (List.replicate run '`' ++ content) (cs.drop run)
    else codeEnd size n (c :: content) rest

/-- The text of code: line breaks count as spaces, and one space at both ends is
    dropped unless there is nothing else. -/
def codeText (content : List Char) : List Char :=
  let cs := content.map fun c => if c = '\n' then ' ' else c
  if cs.head? = some ' ' ∧ cs.getLast? = some ' ' ∧ cs.any (· ≠ ' ') then (cs.drop 1).dropLast
  else cs

/-- A destination without angle brackets: up to a blank, with its parentheses in
    pairs. -/
def bareDestination (depth : Nat) : List Char → Option (List Char × List Char)
  | [] => if depth = 0 then some ([], []) else none
  | '\\' :: d :: cs =>
    if d = ' ' then if depth = 0 then some (['\\'], d :: cs) else none
    else (bareDestination depth cs).map fun r => ('\\' :: d :: r.1, r.2)
  | c :: cs =>
    if c.toNat ≤ 0x20 || c.toNat = 0x7f then if depth = 0 then some ([], c :: cs) else none
    else if c = '(' then (bareDestination (depth + 1) cs).map fun r => (c :: r.1, r.2)
    else if c = ')' then
      match depth with
      | 0 => some ([], c :: cs)
      | d + 1 => (bareDestination d cs).map fun r => (c :: r.1, r.2)
    else (bareDestination depth cs).map fun r => (c :: r.1, r.2)

/-- A destination between angle brackets, after the first of them. -/
def bracketedDestination : List Char → Option (List Char × List Char)
  | [] => none
  | '\\' :: d :: cs => (bracketedDestination cs).map fun r => ('\\' :: d :: r.1, r.2)
  | c :: cs =>
    if c = '>' then some ([], cs)
    else if c = '\n' ∨ c = '<' then none
    else (bracketedDestination cs).map fun r => (c :: r.1, r.2)

/-- A destination that may be followed. -/
def isSafe (destination : List Char) : Bool :=
  let d := (String.ofList (Text.trim destination)).toLower
  !(["vbscript:", "javascript:", "file:", "data:"].any fun scheme => d.startsWith scheme)
    || ["gif", "png", "jpeg", "webp"].any fun kind => d.startsWith ("data:image/" ++ kind ++ ";")

/-- A destination that is not empty, and what follows it. -/
def destination? (cs : List Char) : Option (List Char × List Char) :=
  let found := match cs with
    | '<' :: rest => bracketedDestination rest
    | cs => (bareDestination 0 cs).filter fun r => r.1 ≠ []
  found.filter fun r => isSafe r.1

/-- The characters after a title up to its closing mark. -/
def titleEnd (close : Char) : List Char → Option (List Char)
  | [] => none
  | '\\' :: _ :: cs => titleEnd close cs
  | c :: cs =>
    if c = close then some cs
    else if c = '(' ∧ close = ')' then none
    else titleEnd close cs

/-- The characters after a title. -/
def afterTitle : List Char → Option (List Char)
  | '"' :: cs => titleEnd '"' cs
  | '\'' :: cs => titleEnd '\'' cs
  | '(' :: cs => titleEnd ')' cs
  | _ => none

def skipBlanks (cs : List Char) : List Char :=
  cs.dropWhile fun c => isSpace c || c = '\n'

/-- The destination of a link after its opening parenthesis, and what follows
    the closing one. -/
def linkTail (cs : List Char) : Option (List Char × List Char) :=
  let start := skipBlanks cs
  let (destination, after) := (destination? start).getD ([], start)
  let gap := skipBlanks after
  let rest := if gap.length < after.length then
      match afterTitle gap with
      | some rest => skipBlanks rest
      | none => gap
    else gap
  match rest with
  | ')' :: rest => some (destination, rest)
  | _ => none

/-- A link between angle brackets, after the first of them. -/
def autolink? (cs : List Char) : Option (List Char × List Char) :=
  let content := cs.takeWhile fun c => c ≠ '>' ∧ c ≠ '<' ∧ 0x20 < c.toNat
  let scheme := content.takeWhile fun c => c.isAlphanum || c = '+' || c = '.' || c = '-'
  let isUri := 2 ≤ scheme.length && scheme.length ≤ 32 && (scheme.head?.any Char.isAlpha)
    && (content.drop scheme.length).head? = some ':'
  let name := content.takeWhile fun c =>
    c.isAlphanum || ".!#$%&'*+/=?^_\x60\x7b|\x7d~-".toList.contains c
  let domain := (content.drop (name.length + 1)).splitOn '.'
  let isPart (p : List Char) : Bool :=
    !p.isEmpty && p.length ≤ 63 && p.all (fun c => c.isAlphanum || c = '-')
      && p.head? ≠ some '-' && p.getLast? ≠ some '-'
  let isMail := !name.isEmpty && (content.drop name.length).head? = some '@' && domain.all isPart
  match cs.drop content.length with
  | '>' :: rest => if (isUri && isSafe content) || isMail then some (content, rest) else none
  | _ => none

/-- The attributes of a tag and its end; `bound` is at least the number of
    characters. -/
def attributesEnd (bound : Nat) (cs : List Char) : Option (List Char) :=
  match bound with
  | 0 => none
  | n + 1 =>
    let rest := cs.dropWhile Text.isBlank
    match rest with
    | '>' :: after => some after
    | '/' :: '>' :: after => some after
    | c :: _ =>
      if rest.length = cs.length || !(c.isAlpha || c = '_' || c = ':') then none
      else
        let rest := rest.dropWhile fun c => c.isAlphanum || "_.:-".toList.contains c
        match rest.dropWhile Text.isBlank with
        | '=' :: value =>
          match value.dropWhile Text.isBlank with
          | '"' :: v => attributesEnd n ((v.dropWhile (· ≠ '"')).drop 1)
          | '\'' :: v => attributesEnd n ((v.dropWhile (· ≠ '\'')).drop 1)
          | v =>
            let bare := v.takeWhile fun c =>
              !Text.isBlank c && !("\"'=<>\x60".toList.contains c)
            if bare.isEmpty then none else attributesEnd n (v.drop bare.length)
        | _ => attributesEnd n rest
    | [] => none

/-- What follows the first occurrence of a mark. -/
def afterMark (mark : List Char) : List Char → Option (List Char)
  | [] => none
  | c :: cs =>
    if mark.isPrefixOf (c :: cs) then some ((c :: cs).drop mark.length) else afterMark mark cs

/-- What follows an HTML tag or comment, after its opening angle bracket. -/
def htmlEnd? (cs : List Char) : Option (List Char) :=
  match cs with
  | '/' :: c :: rest =>
    if c.isAlpha then
      match (rest.dropWhile fun c => c.isAlphanum || c = '-').dropWhile Text.isBlank with
      | '>' :: after => some after
      | _ => none
    else none
  | '!' :: '-' :: '-' :: rest => afterMark "-->".toList ('-' :: '-' :: rest)
  | '?' :: rest => afterMark "?>".toList rest
  | '!' :: rest =>
    if "[CDATA[".toList.isPrefixOf rest then afterMark "]]>".toList rest
    else if rest.head?.any Char.isAlpha then afterMark ['>'] rest
    else none
  | c :: rest =>
    if c.isAlpha then
      let after := rest.dropWhile fun c => c.isAlphanum || c = '-'
      attributesEnd (after.length + 1) after
    else none
  | [] => none

/-! ### Emphasis -/

/-- A mark that may open or close emphasis. -/
structure Delimiter where
  marker : Char
  /-- What it is as plain text. -/
  width : Nat
  /-- The number of its run, and how many marks the run has. -/
  run : Nat
  length : Nat
  opens : Bool
  closes : Bool
  deriving Repr

/-- A fragment, or a mark that is not decided yet. -/
inductive Item where
  | fragment (f : Fragment)
  | delimiter (d : Delimiter)

/-- Whether a run between two characters can open and close emphasis. -/
def flanks (marker before after : Char) : Bool × Bool :=
  let blankAfter := Text.isBlank after
  let blankBefore := Text.isBlank before
  let left := !blankAfter && (!isPunctuation after || blankBefore || isPunctuation before)
  let right := !blankBefore && (!isPunctuation before || blankAfter || isPunctuation after)
  if marker = '_' then
    (left && (!right || isPunctuation before), right && (!left || isPunctuation after))
  else (left, right)

/-- The marks of a run. -/
def runItems (marker : Char) (run length : Nat) (before after : Char) : List Item :=
  let (opens, closes) := flanks marker before after
  if marker = '~' then
    (if length % 2 = 1 then [.fragment (.text ['~'])] else [])
      ++ List.replicate (length / 2) (.delimiter ⟨'~', 2, run, 0, opens, closes⟩)
  else List.replicate length (.delimiter ⟨marker, 1, run, length, opens, closes⟩)

/-- An opener and a closer that fit each other. Of two runs, one of which can do
    both, the lengths must not add up to a multiple of three unless both are. -/
def fits (opener closer : Delimiter) : Bool :=
  opener.marker = closer.marker && opener.opens && opener.run ≠ closer.run
    && !((opener.closes || closer.opens) && (opener.length + closer.length) % 3 = 0
      && (opener.length % 3 ≠ 0 || closer.length % 3 ≠ 0))

/-- The places of the marks that form pairs; `stack` holds the openers so far,
    the last one first. -/
def pairs (stack : List (Nat × Delimiter)) : List (Nat × Item) → List Nat
  | [] => []
  | (_, .fragment _) :: rest => pairs stack rest
  | (i, .delimiter d) :: rest =>
    let opener? := if d.closes then stack.find? fun e => fits e.2 d else none
    match opener? with
    | some (j, _) => j :: i :: pairs (stack.filter fun e => e.1 < j) rest
    | none => pairs (if d.opens then (i, d) :: stack else stack) rest

/-- The fragments of items: marks that form pairs vanish, others are text. -/
def resolve (items : List Item) : List Fragment :=
  let numbered := (List.range items.length).zip items
  let matched := pairs [] numbered
  numbered.filterMap fun (i, item) =>
    match item with
    | .fragment f => some f
    | .delimiter d =>
      if matched.contains i then none else some (.text (List.replicate d.width d.marker))

/-! ### Paragraphs -/

mutual

/-- The link or picture whose label starts here, after the opening bracket:
    its label, its destination and what follows it. -/
def reference (refs : References) (bound : Nat) (isImage : Bool) (cs : List Char) :
    Option (List Char × List Char × List Char) :=
  match bound with
  | 0 => none
  | n + 1 =>
    match labelEnd refs n (!isImage) 0 cs with
    | none => none
    | some (label, after) =>
      let direct := match after with
        | '(' :: rest => linkTail rest
        | _ => none
      match direct with
      | some (destination, rest) => some (label, destination, rest)
      | none =>
        let (name, rest) := match after with
          | '[' :: inner =>
            match labelEnd refs n false 0 inner with
            | some (second, rest) => (if second.isEmpty then label else second, rest)
            | none => (label, after)
          | _ => (label, after)
        (refs.lookup (labelKey name)).map fun destination => (label, destination, rest)

/-- The characters of a label up to its closing bracket, and what follows that;
    `depth` counts the brackets open inside it. A label of a link holds no
    link. -/
def labelEnd (refs : References) (bound : Nat) (isLink : Bool) (depth : Nat) (cs : List Char) :
    Option (List Char × List Char) :=
  match bound, cs with
  | 0, _ | _, [] => none
  | n + 1, c :: rest =>
    if c = ']' ∧ depth = 0 then some ([], rest)
    else
      match special refs n cs with
      | some (_, after) =>
        if c = '[' ∧ isLink then none
        else
          let taken := cs.take (cs.length - after.length)
          (labelEnd refs n isLink depth after).map fun r => (taken ++ r.1, r.2)
      | none =>
        let depth := if c = '[' then depth + 1 else if c = ']' then depth - 1 else depth
        (labelEnd refs n isLink depth rest).map fun r => (c :: r.1, r.2)

/-- The escape, code, link, picture, tag or character reference at the
    beginning, and what follows it. -/
def special (refs : References) (bound : Nat) (cs : List Char) :
    Option (List Fragment × List Char) :=
  match bound with
  | 0 => none
  | n + 1 =>
    match cs with
    | '\\' :: c :: rest =>
      if c = '\n' then some ([.text ['\n']], rest.dropWhile isSpace)
      else if isAsciiPunctuation c then some ([.text [c]], rest)
      else none
    | '`' :: _ =>
      let size := (cs.takeWhile (· = '`')).length
      let after := cs.drop size
      match codeEnd size after.length [] after with
      | some (content, rest) => some ([.text (codeText content)], rest)
      | none => some ([.text (List.replicate size '`')], after)
    | '[' :: rest =>
      (reference refs n false rest).map fun (label, _, after) =>
        (resolve (items refs n 0 ' ' label), after)
    | '!' :: '[' :: rest =>
      (reference refs n true rest).map fun (label, destination, after) =>
        ([.image label destination], after)
    | '<' :: rest =>
      match autolink? rest with
      | some (content, after) => some ([.text content], after)
      | none => (htmlEnd? rest).map fun after => ([.html], after)
    | '&' :: rest => (entity? rest).map fun r => ([.text r.1], r.2)
    | _ => none

/-- The items of a text after the character `before`; `run` is the number of
    the next run of marks. -/
def items (refs : References) (bound run : Nat) (before : Char) (cs : List Char) : List Item :=
  match bound, cs with
  | 0, _ | _, [] => []
  | n + 1, c :: rest =>
    match special refs n cs with
    | some (fragments, after) =>
      let last := ((cs.take (cs.length - after.length)).getLast?).getD c
      fragments.map .fragment ++ items refs n run last after
    | none =>
      let spaces := (cs.takeWhile (· = ' ')).length
      if (cs.drop spaces).head? = some '\n' then
        let joint := if 2 ≤ spaces then '\n' else ' '
        let after := (cs.drop (spaces + 1)).dropWhile isSpace
        .fragment (.text [joint]) :: items refs n run '\n' after
      else
        let length := (cs.takeWhile (· = c)).length
        let isRun := c = '*' || c = '_' || (c = '~' && 2 ≤ length)
        if isRun then
          let after := cs.drop length
          runItems c run length before (after.headD ' ') ++ items refs n (run + 1) c after
        else .fragment (.text [c]) :: items refs n run c rest

end

/-- The fragments of a text. -/
def parse (refs : References) (cs : List Char) : List Fragment :=
  resolve (items refs (2 * cs.length + 2) 0 ' ' cs)

end Inline

end Parley.Markdown

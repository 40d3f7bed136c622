import Parley.Yaml.Token.Block
import Parley.Yaml.Token.Plain
import Parley.Yaml.Token.Quoted

/-!
# From characters to tokens

Most tokens are recognised by their first character. Two things need more
care. Indentation opens and closes block collections, so a token that starts
further to the left than the open collections first closes them. And that a
token is a key shows only at the colon after it, on the same line and not far
away: until then it is remembered as a *candidate*, and the tokens for the key
are put in front of it once the colon is there.

A reader takes the tokens one by one, and no further character is looked at
than the token that it asks for needs (`Token.stream`). A refusal that lies
behind a token the reader never asks for is therefore never seen.
-/

namespace Parley.Yaml

/-- A token that may turn out to be a key. -/
structure Candidate where
  /-- The number of the token. -/
  number : Nat
  /-- Nothing but a key can stand where it stands. -/
  required : Bool
  index : Nat
  line : Nat
  column : Nat
  deriving Repr

/-- What is known between two tokens. -/
structure Lexer where
  /-- The number of characters of the text. -/
  size : Nat
  cursor : Cursor
  /-- All tokens so far. -/
  tokens : Array Token
  finished : Bool
  /-- The number of brackets that are open. -/
  depth : Nat
  /-- The column of the innermost block collection, `-1` outside of all. -/
  indent : Int
  /-- The columns of the collections around it. -/
  outer : List Int
  /-- A key, or an indicator that opens a block collection, may follow. -/
  keyMayFollow : Bool
  /-- The candidates, one at most for each number of open brackets. -/
  candidates : List (Nat × Candidate)
  deriving Repr

abbrev Lexing := StateT Lexer (Except Refusal)

/-- The furthest that the colon after a key may be from its beginning. -/
def maxKeyLength : Nat := 1024

namespace Lexer

def start (s : String) : Lexer :=
  { size := s.length
    cursor := Cursor.start (normalizeBreaks s.toList)
    tokens := #[]
    finished := false
    depth := 0
    indent := -1
    outer := []
    keyMayFollow := true
    candidates := [] }

def inFlow (l : Lexer) : Bool :=
  l.depth ≠ 0

/-- Closes the block collections that are indented more than `column`; `open?`
    are the columns around the innermost one. -/
def closeTo (column indent : Int) (tokens : Array Token) : List Int → Lexer → Lexer
  | [], l => { l with indent := indent, outer := [], tokens := tokens }
  | outer :: rest, l =>
    if column < indent then closeTo column outer (tokens.push .blockEnd) rest l
    else { l with indent := indent, outer := outer :: rest, tokens := tokens }

/-- Skips blanks, comments and empty lines; after a line break outside of
    brackets a key may follow. -/
def skipGap : (bound : Nat) → Lexer → Lexer
  | 0, l => l
  | n + 1, l =>
    let c := l.cursor.skipSpaces.skipComment
    if isBreak c.peek then
      skipGap n { l with
        cursor := c.takeBreak.2
        keyMayFollow := l.keyMayFollow || !l.inFlow }
    else { l with cursor := c }

end Lexer

namespace Lexing

/-- Adds a token. -/
def push (t : Token) : Lexing Unit :=
  modify fun l => { l with tokens := l.tokens.push t }

def allowKey (allowed : Bool) : Lexing Unit :=
  modify fun l => { l with keyMayFollow := allowed }

def moveTo (c : Cursor) : Lexing Unit :=
  modify fun l => { l with cursor := c }

/-- Forgets the candidates that are out of reach of any colon. -/
def dropStale : Lexing Unit := do
  let l ← get
  let isStale (k : Candidate) : Bool :=
    k.line ≠ l.cursor.line || k.index + maxKeyLength < l.cursor.index
  if l.candidates.any fun e => isStale e.2 && e.2.required then throw .token
  set { l with candidates := l.candidates.filter fun e => !isStale e.2 }

/-- Forgets the candidate between the current brackets. -/
def dropCandidate : Lexing Unit := do
  let l ← get
  if (l.candidates.lookup l.depth).any Candidate.required then throw .token
  set { l with candidates := l.candidates.filter fun e => e.1 ≠ l.depth }

/-- Remembers that the next token may be a key. -/
def addCandidate : Lexing Unit := do
  if (← get).keyMayFollow then
    dropCandidate
    modify fun l =>
      let c := l.cursor
      let required := !l.inFlow && l.indent = c.column
      { l with candidates :=
          (l.depth, ⟨l.tokens.size, required, c.index, c.line, c.column⟩) :: l.candidates }

/-- Closes the block collections that are indented more than `column`; brackets
    suspend indentation. -/
def unwind (column : Int) : Lexing Unit :=
  modify fun l => if l.inFlow then l else l.closeTo column l.indent l.tokens l.outer

/-- Opens a block collection at a column unless one is open there; `t` is the
    token that opens it and `number` the place of that token. -/
def openBlock (column number : Nat) (t : Token) : Lexing Unit :=
  modify fun l =>
    if l.indent < (column : Int) then
      { l with
        outer := l.indent :: l.outer
        indent := column
        tokens := l.tokens.insertIdxIfInBounds number t }
    else l

/-- Opens a block collection at the position, where one may begin. -/
def openHere (t : Token) : Lexing Unit := do
  let l ← get
  unless l.inFlow do
    unless l.keyMayFollow do throw .token
    openBlock l.cursor.column l.tokens.size t

/-- Takes an indicator of `n` characters. -/
def indicator (n : Nat) (t : Token) : Lexing Unit := do
  push t
  modify fun l => { l with cursor := l.cursor.skip n }

/-- The end of the text closes everything. -/
def finish : Lexing Unit := do
  unwind (-1)
  dropCandidate
  modify fun l => { l with finished := true, keyMayFollow := false, candidates := [] }
  push .streamEnd

/-- Leaves all block collections, at a directive or a document marker. -/
def leaveBlocks : Lexing Unit := do
  unwind (-1)
  dropCandidate
  allowKey false

def directive : Lexing Unit := do
  leaveBlocks
  let (t, c) ← (← get).cursor.takeDirective
  moveTo c
  push t

def documentMarker (t : Token) : Lexing Unit := do
  leaveBlocks
  indicator 3 t

def openBracket (t : Token) : Lexing Unit := do
  addCandidate
  modify fun l => { l with depth := l.depth + 1 }
  allowKey true
  indicator 1 t

def closeBracket (t : Token) : Lexing Unit := do
  dropCandidate
  modify fun l => { l with depth := l.depth - 1 }
  allowKey false
  indicator 1 t

def flowEntry : Lexing Unit := do
  allowKey true
  dropCandidate
  indicator 1 .flowEntry

def blockEntry : Lexing Unit := do
  openHere .blockSequenceStart
  allowKey true
  dropCandidate
  indicator 1 .blockEntry

def key : Lexing Unit := do
  openHere .blockMappingStart
  allowKey (!(← get).inFlow)
  dropCandidate
  indicator 1 .key

/-- A colon: it makes a key of the candidate, or else stands for an empty key. -/
def value : Lexing Unit := do
  let l ← get
  match l.candidates.lookup l.depth with
  | some k =>
    set { l with
      candidates := l.candidates.filter fun e => e.1 ≠ l.depth
      tokens := l.tokens.insertIdxIfInBounds k.number .key
      keyMayFollow := false }
    unless l.inFlow do openBlock k.column k.number .blockMappingStart
  | none =>
    openHere .blockMappingStart
    allowKey (!(← get).inFlow)
    dropCandidate
  indicator 1 .value

/-- A token that may be a key, or begin one. -/
def candidate (take : Cursor → Except Refusal (Token × Cursor)) : Lexing Unit := do
  addCandidate
  allowKey false
  let (t, c) ← take (← get).cursor
  moveTo c
  push t

def blockScalar : Lexing Unit := do
  allowKey true
  dropCandidate
  let l ← get
  let (cs, c) ← l.cursor.takeBlock l.indent
  moveTo c
  push (.scalar (String.ofList cs) false)

def plainScalar : Lexing Unit := do
  addCandidate
  let l ← get
  let scan := l.cursor.takePlain l.inFlow (l.indent + 1)
  allowKey scan.keyMayFollow
  moveTo scan.after
  push (.scalar (String.ofList scan.content) true)

/-- Takes the next tokens, one at least. -/
def fetch : Lexing Unit := do
  modify fun l =>
    let l := if l.cursor.index = 0 ∧ l.cursor.peek = byteOrderMark then
        { l with cursor := l.cursor.next }
      else l
    l.skipGap (l.size + 1)
  dropStale
  unwind (← get).cursor.column
  let l ← get
  let c := l.cursor
  let inFlow := l.inFlow
  let ch := c.peek
  let gapFollows := isGapOrEnd (c.peekAt 1)
  if ch = endMark then finish
  else if c.column = 0 ∧ ch = '%' then directive
  else if c.column = 0 ∧ c.hasMarker '-' then documentMarker .documentStart
  else if c.column = 0 ∧ c.hasMarker '.' then documentMarker .documentEnd
  else if ch = '[' then openBracket .flowSequenceStart
  else if ch = '{' then openBracket .flowMappingStart
  else if ch = ']' then closeBracket .flowSequenceEnd
  else if ch = '}' then closeBracket .flowMappingEnd
  else if ch = ',' then flowEntry
  else if ch = '-' ∧ gapFollows then blockEntry
  else if ch = '?' ∧ (inFlow ∨ gapFollows) then key
  else if ch = ':' ∧ (inFlow ∨ gapFollows) then value
  else if ch = '*' then candidate fun c => do
    let (name, c) ← c.takeAnchor
    pure (.alias name, c)
  else if ch = '&' then candidate fun c => do
    let (name, c) ← c.takeAnchor
    pure (.anchor name, c)
  else if ch = '!' then candidate Cursor.takeTag
  else if !inFlow ∧ (ch = '|' ∨ ch = '>') then blockScalar
  else if ch = '\'' ∨ ch = '"' then candidate fun c => do
    let (cs, c) ← c.takeQuoted
    pure (.scalar (String.ofList cs) false, c)
  else if c.startsPlain inFlow then plainScalar
  else throw .token

/-- Takes tokens until the one of a number is there and cannot be preceded by
    another; `bound` is at least the number of characters of the text, plus
    two. -/
def demand (number : Nat) : (bound : Nat) → Lexing Unit
  | 0 => pure ()
  | n + 1 => do
    let l ← get
    if l.finished then pure ()
    else if l.tokens.size ≤ number then
      fetch
      demand number n
    else
      dropStale
      if (← get).candidates.any fun e => e.2.number = number then
        fetch
        demand number n

end Lexing

/-- The tokens of a text up to the end or to a refusal. -/
structure TokenStream where
  tokens : List Token
  /-- Why there are no more, unless the text is at its end. -/
  refusal : Option Refusal
  deriving Repr

/-- The tokens from a number on; `bound` is at least how many there are. -/
def Lexer.tokensFrom (number : Nat) : (bound : Nat) → Lexer → TokenStream
  | 0, _ => ⟨[], none⟩
  | n + 1, l =>
    match (Lexing.demand number (l.size + 2)).run l with
    | .error e => ⟨[], some e⟩
    | .ok ((), l) =>
      match l.tokens[number]? with
      | none => ⟨[], none⟩
      | some t =>
        let rest := l.tokensFrom (number + 1) n
        { rest with tokens := t :: rest.tokens }

/-- The tokens of a text: a character makes four of them at most, the end one. -/
def Token.stream (s : String) : TokenStream :=
  (Lexer.start s).tokensFrom 0 (4 * s.length + 2)

end Parley.Yaml

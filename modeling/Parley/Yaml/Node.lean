import Parley.Yaml.Tag
import Parley.Yaml.Token.Lexer

/-!
# Nodes

The tree that the tokens of a document describe. Nodes are read by recursive
descent; an alias is replaced by the node that its anchor names
(`Node.ofDocument`).

An anchor belongs to one node of the document, and an alias stands after it. A
collection's anchor can be named inside the collection too, but the tree of
such a document would not be finite, so it is refused.
-/

namespace Parley.Yaml

/-- A node with its tag. -/
inductive Node where
  | scalar (tag : Tag) (content : String)
  | sequence (tag : Tag) (items : List Node)
  | mapping (tag : Tag) (entries : List (Node × Node))

def Node.tag : Node → Tag
  | .scalar t _ | .sequence t _ | .mapping t _ => t

/-- The node of a key or value that is not there. -/
def Node.empty : Node := .scalar .null ""

/-- What is known between two nodes. -/
structure Reader where
  tokens : List Token
  /-- Why there are no more tokens. -/
  refusal : Refusal
  /-- What the tag handles stand for. -/
  handles : List (String × String)
  /-- The anchors so far, each with its node once that is complete. -/
  anchors : List (String × Option Node)

abbrev Reading := StateT Reader (Except Refusal)

/-- Where a node stands. -/
inductive Place where
  /-- In a block collection. -/
  | block
  /-- In a block mapping, where the hyphens of a sequence need no indentation. -/
  | entry
  /-- Between brackets. -/
  | flow
  deriving DecidableEq

namespace Reading

/-- The next token. -/
def peek : Reading Token := do
  let r ← get
  match r.tokens with
  | t :: _ => pure t
  | [] => throw r.refusal

/-- Takes the next token. -/
def take : Reading Token := do
  let t ← peek
  modify fun r => { r with tokens := r.tokens.tail }
  pure t

/-- The next token is one of these. -/
def nextIn (ts : List Token) : Reading Bool := do
  pure (ts.contains (← peek))

/-- Takes the next token if it is this one. -/
def takeIf (t : Token) : Reading Bool := do
  if (← peek) = t then
    let _ ← take
    pure true
  else pure false

/-- Takes the next token, which has to be this one. -/
def expect (t : Token) : Reading Unit := do
  unless ← takeIf t do throw .grammar

/-! ### Anchors and tags -/

/-- The anchor at the next token, if there is one. -/
def takeAnchor : Reading (Option String) := do
  match ← peek with
  | .anchor name => do
    let _ ← take
    pure (some name)
  | _ => pure none

/-- The name of the tag at the next token, if there is one, its handle still in
    front. -/
def takeTag : Reading (Option (Option String × String)) := do
  match ← peek with
  | .tag handle suffix => do
    let _ ← take
    pure (some (handle, suffix))
  | _ => pure none

/-- The full name of a tag. -/
def fullName : Option String × String → Reading String
  | (none, suffix) => pure suffix
  | (some handle, suffix) => do
    match (← get).handles.lookup handle with
    | some stem => pure (stem ++ suffix)
    | none => throw .grammar

/-- The anchor and the name of the tag in front of a node, in either order. -/
def takeProperties : Reading (Option String × Option String) := do
  let first ← takeAnchor
  let tag ← takeTag
  let anchor ← if first.isNone && tag.isSome then takeAnchor else pure first
  pure (anchor, ← tag.mapM fullName)

/-- Keeps a name for the node to come. -/
def announce : Option String → Reading Unit
  | none => pure ()
  | some name => do
    if ((← get).anchors.lookup name).isSome then throw .composition
    modify fun r => { r with anchors := (name, none) :: r.anchors }

/-- The node of an announced name is complete. -/
def complete (anchor : Option String) (node : Node) : Reading Node := do
  match anchor with
  | none => pure ()
  | some name => modify fun r => { r with anchors := (name, some node) :: r.anchors }
  pure node

/-- The node that an alias names. -/
def resolve (name : String) : Reading Node := do
  match (← get).anchors.lookup name with
  | none => throw .composition
  | some none => throw .selfReference
  | some (some node) => pure node

/-- The tag of a collection, `usual` unless another is named. -/
def collectionTag (usual : Tag) : Option String → Tag
  | none => usual
  | some name => if name = "!" then usual else Tag.ofName name

/-- The tag of a scalar. The lone exclamation mark makes it count as plain. -/
def scalarTag (plain : Bool) (content : String) : Option String → Tag
  | none => if plain then Tag.ofPlain content else .text
  | some name => if name = "!" then Tag.ofPlain content else Tag.ofName name

/-! ### Nodes -/

mutual

/-- The node at the next token. `bound` limits the depth of the recursion. -/
def node (bound : Nat) (place : Place) : Reading Node :=
  match bound with
  | 0 => throw .grammar
  | n + 1 => do
    match ← peek with
    | .alias name => do
      let _ ← take
      resolve name
    | _ => do
      let (anchor, tag) ← takeProperties
      let sequence (items : Reading (List Node)) : Reading Node := do
        announce anchor
        complete anchor (.sequence (collectionTag .sequence tag) (← items))
      let mapping (entries : Reading (List (Node × Node))) : Reading Node := do
        announce anchor
        complete anchor (.mapping (collectionTag .mapping tag) (← entries))
      match ← peek, place with
      | .blockEntry, .entry => sequence (looseItems n)
      | .scalar content plain, _ => do
        let _ ← take
        announce anchor
        complete anchor (.scalar (scalarTag plain content tag) content)
      | .flowSequenceStart, _ => sequence (do let _ ← take; flowItems n true)
      | .flowMappingStart, _ => mapping (do let _ ← take; flowEntries n true)
      | .blockSequenceStart, .block | .blockSequenceStart, .entry =>
        sequence (do let _ ← take; blockItems n)
      | .blockMappingStart, .block | .blockMappingStart, .entry =>
        mapping (do let _ ← take; blockEntries n)
      | _, _ =>
        if anchor.isSome || tag.isSome then do
          announce anchor
          complete anchor (.scalar (scalarTag tag.isNone "" tag) "")
        else throw .grammar

/-- The node at the next token, or an empty one before any of some tokens. -/
def nodeBefore (bound : Nat) (place : Place) (ends : List Token) : Reading Node :=
  match bound with
  | 0 => throw .grammar
  | n + 1 => do if ← nextIn ends then pure .empty else node n place

/-- The items of a block sequence and its end. -/
def blockItems (bound : Nat) : Reading (List Node) :=
  match bound with
  | 0 => throw .grammar
  | n + 1 => do
    if ← takeIf .blockEntry then
      let item ← nodeBefore n .block [.blockEntry, .blockEnd]
      pure (item :: (← blockItems n))
    else
      expect .blockEnd
      pure []

/-- The items of a sequence that is not indented. -/
def looseItems (bound : Nat) : Reading (List Node) :=
  match bound with
  | 0 => throw .grammar
  | n + 1 => do
    if ← takeIf .blockEntry then
      let item ← nodeBefore n .block [.blockEntry, .key, .value, .blockEnd]
      pure (item :: (← looseItems n))
    else pure []

/-- The entries of a block mapping and its end. -/
def blockEntries (bound : Nat) : Reading (List (Node × Node)) :=
  match bound with
  | 0 => throw .grammar
  | n + 1 => do
    if ← takeIf .key then
      let ends := [.key, .value, .blockEnd]
      let key ← nodeBefore n .entry ends
      let value ← if ← takeIf .value then nodeBefore n .entry ends else pure .empty
      pure ((key, value) :: (← blockEntries n))
    else
      expect .blockEnd
      pure []

/-- The value after a key between brackets. -/
def flowValue (bound : Nat) (close : Token) : Reading Node :=
  match bound with
  | 0 => throw .grammar
  | n + 1 => do
    if ← takeIf .value then nodeBefore n .flow [.flowEntry, close] else pure .empty

/-- The items of a sequence in brackets and its end; a key makes a mapping of
    one entry. -/
def flowItems (bound : Nat) (first : Bool) : Reading (List Node) :=
  match bound with
  | 0 => throw .grammar
  | n + 1 => do
    if ← takeIf .flowSequenceEnd then pure []
    else
      unless first do expect .flowEntry
      if ← takeIf .key then
        let key ← nodeBefore n .flow [.value, .flowEntry, .flowSequenceEnd]
        let value ← flowValue n .flowSequenceEnd
        pure (.mapping .mapping [(key, value)] :: (← flowItems n false))
      else if ← takeIf .flowSequenceEnd then pure []
      else
        let item ← node n .flow
        pure (item :: (← flowItems n false))

/-- The entries of a mapping in braces and its end. -/
def flowEntries (bound : Nat) (first : Bool) : Reading (List (Node × Node)) :=
  match bound with
  | 0 => throw .grammar
  | n + 1 => do
    if ← takeIf .flowMappingEnd then pure []
    else
      unless first do expect .flowEntry
      if ← takeIf .key then
        let key ← nodeBefore n .flow [.value, .flowEntry, .flowMappingEnd]
        let value ← flowValue n .flowMappingEnd
        pure ((key, value) :: (← flowEntries n false))
      else if ← takeIf .flowMappingEnd then pure []
      else
        let key ← node n .flow
        pure ((key, .empty) :: (← flowEntries n false))

end

/-! ### Documents -/

/-- The handles that every document knows. -/
def usualHandles : List (String × String) :=
  [("!", "!"), ("!!", Tag.stem)]

/-- The directives at the next token. A version may be given once and has to
    be 1; the meaning of a handle may be given once. `bound` is at least their
    number. -/
def directives (bound : Nat) (versionGiven : Bool) : Reading Unit :=
  match bound with
  | 0 => pure ()
  | n + 1 => do
    match ← peek with
    | .directive d => do
      let _ ← take
      match d with
      | .version major _ => do
        if versionGiven || major ≠ 1 then throw .grammar
        directives n true
      | .tag handle stem => do
        if ((← get).handles.lookup handle).isSome then throw .grammar
        modify fun r => { r with handles := r.handles ++ [(handle, stem)] }
        directives n versionGiven
      | .other => directives n versionGiven
    | _ => pure ()

/-- Skips the markers of a document's end; `bound` is at least their number. -/
def skipEnds (bound : Nat) : Reading Unit :=
  match bound with
  | 0 => pure ()
  | n + 1 => do if ← takeIf .documentEnd then skipEnds n

/-- The next token is a directive. -/
def atDirective : Reading Bool := do
  match ← peek with
  | .directive _ => pure true
  | _ => pure false

/-- Directives and the marker of a document's start. -/
def documentStart (bound : Nat) : Reading Unit := do
  directives bound false
  expect .documentStart
  modify fun r => { r with handles := r.handles ++ usualHandles }

/-- The node of the only document, if there is one. -/
def document (bound : Nat) : Reading (Option Node) := do
  let content ←
    if (← atDirective) || (← nextIn [.documentStart, .streamEnd]) then do
      skipEnds bound
      if ← nextIn [.streamEnd] then pure none
      else
        documentStart bound
        let isEmpty := (← atDirective) || (← nextIn [.documentStart, .documentEnd, .streamEnd])
        some <$> if isEmpty then pure .empty else node bound .block
    else do
      modify fun r => { r with handles := usualHandles }
      some <$> node bound .block
  if content.isSome then
    let _ ← takeIf .documentEnd
    skipEnds bound
    unless ← nextIn [.streamEnd] do
      modify fun r => { r with handles := [] }
      documentStart bound
      throw .composition
  pure content

end Reading

/-- The node of the only document of a text, if it holds one. -/
def Node.ofDocument (s : String) : Except Refusal (Option Node) := do
  let stream := Token.stream s
  let bound := 4 * stream.tokens.length + 4
  let reader : Reader := ⟨stream.tokens, stream.refusal.getD .grammar, [], []⟩
  let (node, _) ← (Reading.document bound).run reader
  pure node

end Parley.Yaml

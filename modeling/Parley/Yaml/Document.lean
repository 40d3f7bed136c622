import Parley.Value.Mapping
import Parley.Yaml.Node
import Parley.Yaml.Scalar

/-!
# The values of documents

A document's value is that of its node (`Yaml.read`); a text without a document
has none.

A mapping may take over the entries of other mappings under the merge key: they
come first, so that the mapping's own entries overwrite them. Of several
mappings in a list, earlier ones overwrite later ones.

A node may be refused for several reasons. The one reported is the one nearest
to the root, and of those the first in the text (`Layered`).
-/

namespace Parley.Yaml

/-- A result, or a refusal with its distance from the root. -/
inductive Layered (α : Type) where
  | ok (result : α)
  | refused (depth : Nat) (cause : Refusal)

namespace Layered

variable {α β γ : Type}

def map (f : α → β) : Layered α → Layered β
  | .ok x => .ok (f x)
  | .refused depth cause => .refused depth cause

/-- Both results, or the refusal nearer to the root. -/
def both (f : α → β → γ) : Layered α → Layered β → Layered γ
  | .ok x, .ok y => .ok (f x y)
  | .refused depth cause, .ok _ => .refused depth cause
  | .ok _, .refused depth cause => .refused depth cause
  | .refused d cause, .refused e other => if e < d then .refused e other else .refused d cause

/-- One layer further away from the root. -/
def deeper : Layered α → Layered α
  | .ok x => .ok x
  | .refused depth cause => .refused (depth + 1) cause

/-- The result of a scalar, which is in the layer of the node that holds it. -/
def ofExcept : Except Refusal α → Layered α
  | .ok x => .ok x
  | .error cause => .refused 0 cause

/-- A node of the wrong kind. -/
def wrong : Layered α := .refused 0 .construction

def toExcept : Layered α → Except Refusal α
  | .ok x => .ok x
  | .refused _ cause => .error cause

end Layered

namespace Tag

/-- The tag of a collection. -/
def isCollection : Tag → Bool
  | .sequence | .mapping | .set | .orderedMapping | .pairs => true
  | _ => false

/-- The tag of a scalar that has a value. -/
def isScalar : Tag → Bool
  | .null | .truth | .integer | .number | .timestamp | .text | .octets => true
  | _ => false

end Tag

namespace Node

/-- The content of the scalar that a node stands for: its own, or that of the
    value at its default key. -/
def scalarContent? : Node → Option String
  | .scalar _ content => some content
  | .sequence _ _ => none
  | .mapping _ entries => defaultContent? entries
where
  defaultContent? : List (Node × Node) → Option String
    | [] => none
    | (key, value) :: rest =>
      if key.tag = .default then scalarContent? value else defaultContent? rest

mutual

/-- The merge keys of a mapping, and those of the mappings they merge, hold
    mappings or lists of mappings. -/
def mergesWell : Node → Bool
  | .mapping _ entries => entriesMergeWell entries
  | _ => false

def entriesMergeWell : List (Node × Node) → Bool
  | [] => true
  | (key, value) :: rest =>
    (if key.tag = .merge then
        match value with
        | .sequence _ items => itemsMergeWell items
        | value => mergesWell value
      else true) && entriesMergeWell rest

def itemsMergeWell : List Node → Bool
  | [] => true
  | item :: rest => mergesWell item && itemsMergeWell rest

end

/-- The entries of a mapping, those that it merges apart from its own. -/
structure Entries where
  merged : Mapping
  own : Mapping

/-- All entries, merged ones first. -/
def Entries.all (e : Entries) : Mapping := e.merged ++ e.own

/-- The mapping of the entries; later ones overwrite earlier ones. -/
def record (entries : Mapping) : Mapping :=
  Mapping.merge [] entries

mutual

/-- The value of a node. -/
def value : Node → Layered Value
  | .scalar tag content =>
    if tag.isCollection then .deeper .wrong else .ofExcept (Scalar.value tag content)
  | .sequence tag items =>
    match tag with
    | .sequence => ((values items).map Value.list).deeper
    | .orderedMapping | .pairs => ((pairs items).map Value.list).deeper
    | .mapping | .set => .deeper .wrong
    | _ => .wrong
  | .mapping tag entries =>
    match tag with
    | .mapping => ((allEntries entries).map fun es => Value.record (record es)).deeper
    | .set => ((allEntries entries).map fun es => Value.set (record es).keys).deeper
    | .sequence | .orderedMapping | .pairs => .deeper .wrong
    | tag =>
      if !tag.isScalar then .wrong
      else
        match scalarContent?.defaultContent? entries with
        | none => .wrong
        | some content =>
          if tag = .timestamp then .refused 0 (.misuse .kind)
          else .ofExcept (Scalar.value tag content)

def values : List Node → Layered (List Value)
  | [] => .ok []
  | node :: rest => .both List.cons (value node) (values rest)

/-- The only entry of each of the mappings, as a pair. -/
def pairs : List Node → Layered (List Value)
  | [] => .ok []
  | node :: rest =>
    let pair : Layered Value := match node with
      | .mapping _ [(k, v)] => .both (fun key v => Value.tuple [key, v]) (value k) (value v)
      | _ => .wrong
    .both List.cons pair (pairs rest)

/-- The entries that a mapping has under its merge keys, then its own. -/
def allEntries (entries : List (Node × Node)) : Layered Mapping :=
  if entriesMergeWell entries then (splitEntries entries).map Entries.all else .wrong

/-- The entries of a mapping whose merge keys are in order. A special key that
    is not a merge key is a text. -/
def splitEntries : List (Node × Node) → Layered Entries
  | [] => .ok ⟨[], []⟩
  | (k, v) :: rest =>
    if k.tag = .merge then
      let merged : Layered Mapping := match v with
        | .mapping _ entries => (splitEntries entries).map Entries.all
        | .sequence _ items => (lastFirst items)
        | .scalar _ _ => .wrong
      .both (fun merged e => { e with merged := merged ++ e.merged }) merged (splitEntries rest)
    else
      let key : Layered Value :=
        if k.tag.isCollection then .wrong
        else if k.tag = .default then
          match scalarContent? k with
          | some content => .ok (.text content)
          | none => .wrong
        else value k
      let entry : Layered (Value × Value) := .both Prod.mk key (value v)
      .both (fun entry e => { e with own := entry :: e.own }) entry (splitEntries rest)

/-- The entries of the mappings of a list, the last mapping first. -/
def lastFirst : List Node → Layered Mapping
  | [] => .ok []
  | node :: rest =>
    let first : Layered Mapping := match node with
      | .mapping _ entries => (splitEntries entries).map Entries.all
      | _ => .wrong
    .both (fun first later => later ++ first) first (lastFirst rest)

end

end Node

/-- The value of the only document of a text, if there is one. -/
def read (s : String) : Except Refusal (Option Value) := do
  unless (normalizeBreaks s.toList).all isAllowed do throw .character
  match ← Node.ofDocument s with
  | some node => some <$> node.value.toExcept
  | none => pure none

end Parley.Yaml

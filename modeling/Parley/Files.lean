import Parley.Text.Printable

/-!
# Files

The files and folders that a program may look at, as far as they are known:
texts at places, and one folder that the program is in. A path is followed part
by part, from there or from the outermost folder (`Files.follow`).
-/

namespace Parley

/-- A path with its redundant slashes and points left out. -/
structure Path where
  absolute : Bool
  parts : List String
  deriving DecidableEq, Repr

namespace Path

def ofString (s : String) : Path :=
  ⟨s.startsWith "/", ((s.toList.splitOn '/').map String.ofList).filter fun p => p ≠ "" ∧ p ≠ "."⟩

def text (p : Path) : String :=
  let joined := "/".intercalate p.parts
  if p.absolute then "/" ++ joined
  else if p.parts.isEmpty then "."
  else joined

def child (p : Path) (name : String) : Path :=
  { p with parts := p.parts ++ [name] }

end Path

/-- What is at a place. -/
inductive FileEntry where
  | file (content : String)
  | folder
  deriving DecidableEq, Repr

/-- The files and folders that are known, by their place: the parts of the path
    that leads there from the outermost folder. The folders around a place need
    not be listed. -/
structure Files where
  /-- The place of the folder that paths which are not absolute start in. -/
  here : List String
  entries : List (List String × FileEntry)
  deriving Repr

namespace Files

/-- What is at a place, if there is anything. -/
def at? (fs : Files) (place : List String) : Option FileEntry :=
  match fs.entries.find? fun e => e.1 = place with
  | some e => some e.2
  | none =>
    if place.isPrefixOf fs.here || fs.entries.any fun e => place.isPrefixOf e.1 then some .folder
    else none

/-- The place that parts of a path lead to from a place, if each part but the
    last leads to a folder and the last one to anything. -/
def follow (fs : Files) (place : List String) : List String → Option (List String)
  | [] => some place
  | p :: ps =>
    if fs.at? place ≠ some .folder then none
    else
      let next := if p = ".." then place.dropLast else place ++ [p]
      if (fs.at? next).isSome then fs.follow next ps else none

/-- The place that a path starts from. -/
def start (fs : Files) (p : Path) : List String :=
  if p.absolute then [] else fs.here

/-- The place that a path leads to. -/
def place? (fs : Files) (p : Path) : Option (List String) :=
  fs.follow (fs.start p) p.parts

/-- What a path leads to. -/
def find? (fs : Files) (p : Path) : Option FileEntry :=
  (fs.place? p).bind fs.at?

/-- The names in the folder that a path leads to, in the order of their
    characters. -/
def names (fs : Files) (p : Path) : List String :=
  match fs.place? p with
  | some place =>
    let below := fs.entries.filterMap fun e =>
      if place.isPrefixOf e.1 then e.1[place.length]? else none
    below.eraseDups.mergeSort fun a b => !(b < a)
  | none => []

/-- The place of a path when each step up takes back the part before it,
    wherever that would lead. -/
def settled (fs : Files) (p : Path) : List String :=
  p.parts.foldl (fun place part => if part = ".." then place.dropLast else place ++ [part])
    (fs.start p)

end Files

end Parley

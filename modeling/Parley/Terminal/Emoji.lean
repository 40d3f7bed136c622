import Parley.Terminal.Emoji.Names
import Parley.Text.Blank

/-!
# Pictures by name

A name between colons stands for a picture. `entries` lists the names that are
known; a name of any other kind, and its colons, stay as they are.
-/

namespace Parley.Terminal.Emoji

/-- The picture of an entry, if the name is one of its names. -/
def pictureIn? (name entry : String) : Option String :=
  match entry.splitOn " " with
  | picture :: names => if names.contains name then some picture else none
  | [] => none

/-- The picture of a name. -/
def picture? (name : String) : Option String :=
  entries.findSome? (pictureIn? name)

/-- The lower-case letter of a letter, as far as names of pictures have them:
    those of ASCII and of the western European languages, and that of the
    Kelvin sign. -/
def lower (c : Char) : Char :=
  let n := c.toNat
  if 0xc0 ≤ n ∧ n ≤ 0xde ∧ n ≠ 0xd7 then Char.ofNat (n + 0x20)
  else if c = '\u212a' then 'k'
  else c.toLower

/-- The characters up to the next colon, and those after it, if no blank stands
    before it. -/
def nameBefore : List Char → Option (List Char × List Char)
  | [] => none
  | c :: cs =>
    if c = ':' then some ([], cs)
    else if Text.isBlank c then none
    else (nameBefore cs).map fun r => (c :: r.1, r.2)

/-- What a name between colons stands for. A suffix may ask for the textual or
    the pictorial form. -/
def replacement (name : List Char) : List Char :=
  let strip (suffix : String) : Option (List Char) :=
    if suffix.toList.isSuffixOf name then some (name.take (name.length - suffix.length)) else none
  let (stem, form) := match strip "-emoji", strip "-text" with
    | some stem, _ => (stem, ['\ufe0f'])
    | none, some stem => (stem, ['\ufe0e'])
    | none, none => (name, [])
  match picture? (String.ofList (stem.map lower)) with
  | some p => p.toList ++ form
  | none => ':' :: name ++ [':']

/-- The characters with the names between colons replaced; `bound` is at least
    their number. -/
def replaceUpTo : (bound : Nat) → List Char → List Char
  | 0, cs => cs
  | _ + 1, [] => []
  | n + 1, c :: cs =>
    if c = ':' then
      match nameBefore cs with
      | some (name, rest) => replacement name ++ replaceUpTo n rest
      | none => c :: replaceUpTo n cs
    else c :: replaceUpTo n cs

/-- The characters with the names between colons replaced. -/
def replace (cs : List Char) : List Char :=
  replaceUpTo cs.length cs

end Parley.Terminal.Emoji

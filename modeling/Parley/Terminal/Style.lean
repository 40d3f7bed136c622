import Parley.Terminal.Wrap
import Parley.Value.Misuse

/-!
# Names of styles

A style is named by words: attributes, a colour, a colour of the background and
a link. The same style has many names, so names are compared in a normal form
(`Style.normalize`): attributes in a fixed order and written out, then the
colours and the link. Words that name no style are only brought into lower case.

A colour may be named by its parts of red, green and blue. A part that is no
number, or too long a one, makes the name unreadable (`component`).
-/

namespace Parley.Terminal.Style

/-- The attributes, in the order of the normal form, with their short names. -/
def attributes : List (String × List String) :=
  [ ("bold", ["b"]), ("dim", ["d"]), ("italic", ["i"]), ("underline", ["u"]), ("blink", []),
    ("blink2", []), ("reverse", ["r"]), ("conceal", ["c"]), ("strike", ["s"]),
    ("underline2", ["uu"]), ("frame", []), ("encircle", []), ("overline", ["o"]) ]

/-- The attribute that a word names. -/
def attribute? (word : String) : Option String :=
  (attributes.find? fun a => a.1 = word || a.2.contains word).map Prod.fst

/-- The named colours apart from the shades of grey. -/
def colors : List String :=
  [ "default", "black", "red", "green", "yellow", "blue", "magenta", "cyan", "white",
    "bright_black", "bright_red", "bright_green", "bright_yellow", "bright_blue",
    "bright_magenta", "bright_cyan", "bright_white", "navy_blue", "dark_blue", "blue3", "blue1",
    "dark_green", "deep_sky_blue4", "dodger_blue3", "dodger_blue2", "green4", "spring_green4",
    "turquoise4", "deep_sky_blue3", "dodger_blue1", "green3", "spring_green3", "dark_cyan",
    "light_sea_green", "deep_sky_blue2", "deep_sky_blue1", "spring_green2", "cyan3",
    "dark_turquoise", "turquoise2", "green1", "spring_green1", "medium_spring_green", "cyan2",
    "cyan1", "dark_red", "deep_pink4", "purple4", "purple3", "blue_violet", "orange4",
    "medium_purple4", "slate_blue3", "royal_blue1", "chartreuse4", "dark_sea_green4",
    "pale_turquoise4", "steel_blue", "steel_blue3", "cornflower_blue", "chartreuse3",
    "cadet_blue", "sky_blue3", "steel_blue1", "pale_green3", "sea_green3", "aquamarine3",
    "medium_turquoise", "chartreuse2", "sea_green2", "sea_green1", "aquamarine1",
    "dark_slate_gray2", "dark_magenta", "dark_violet", "purple", "light_pink4", "plum4",
    "medium_purple3", "slate_blue1", "yellow4", "wheat4", "light_slate_grey",
    "light_slate_gray", "medium_purple", "light_slate_blue", "dark_olive_green3",
    "dark_sea_green", "light_sky_blue3", "sky_blue2", "dark_sea_green3", "dark_slate_gray3",
    "sky_blue1", "chartreuse1", "light_green", "pale_green1", "dark_slate_gray1", "red3",
    "medium_violet_red", "magenta3", "dark_orange3", "indian_red", "hot_pink3",
    "medium_orchid3", "medium_orchid", "medium_purple2", "dark_goldenrod", "light_salmon3",
    "rosy_brown", "medium_purple1", "gold3", "dark_khaki", "navajo_white3",
    "light_steel_blue3", "light_steel_blue", "yellow3", "dark_sea_green2", "light_cyan3",
    "light_sky_blue1", "green_yellow", "dark_olive_green2", "dark_sea_green1",
    "pale_turquoise1", "deep_pink3", "magenta2", "hot_pink2", "orchid", "medium_orchid1",
    "orange3", "light_pink3", "pink3", "plum3", "violet", "light_goldenrod3", "tan",
    "misty_rose3", "thistle3", "plum2", "khaki3", "light_goldenrod2", "light_yellow3",
    "light_steel_blue1", "yellow2", "dark_olive_green1", "honeydew2", "light_cyan1", "red1",
    "deep_pink2", "deep_pink1", "magenta1", "orange_red1", "indian_red1", "hot_pink",
    "dark_orange", "salmon1", "light_coral", "pale_violet_red1", "orchid2", "orchid1",
    "orange1", "sandy_brown", "light_salmon1", "light_pink1", "pink1", "plum1", "gold1",
    "navajo_white1", "misty_rose1", "thistle1", "yellow1", "light_goldenrod1", "khaki1",
    "wheat1", "cornsilk1" ]

/-- The shades of grey, in percent. -/
def greys : List String :=
  [ "0", "3", "7", "11", "15", "19", "23", "27", "30", "35", "37", "39", "42", "46", "50", "53",
    "54", "58", "62", "63", "66", "69", "70", "74", "78", "82", "84", "85", "89", "93", "100" ]

/-- What stands between a beginning and a closing bracket. -/
def argument? (opening : String) (word : String) : Option (List Char) :=
  let cs := word.toList
  if word.startsWith opening ∧ cs.getLast? = some ')' then
    some ((cs.drop opening.length).dropLast)
  else none

def isLowerHex (c : Char) : Bool :=
  c.isDigit || ('a' ≤ c && c ≤ 'f')

/-- The number that digits of any script spell. -/
def numberOf (cs : List Char) : Nat :=
  cs.foldl (fun n c => 10 * n + (Text.digit? c).getD 0) 0

/-- A part of a colour, spelled by digits. -/
def component (cs : List Char) : Except Misuse Nat :=
  if cs.isEmpty then .error (.form "invalid literal for int() with base 10: ''")
  else if Text.maxDigits < cs.length then .error (.form (Misuse.digitsRead cs.length))
  else .ok (numberOf cs)

/-- The characters name a colour by its parts of red, green and blue. -/
def isTriplet (cs : List Char) : Except Misuse Bool :=
  let parts := cs.splitOn ','
  if !cs.isEmpty && cs.all (fun c => c = ',' || (Text.digit? c).isSome) && parts.length = 3 then do
    pure ((← parts.mapM component).all (· ≤ 255))
  else pure false

/-- The characters name a place in the palette. -/
def isPlace (cs : List Char) : Bool :=
  !cs.isEmpty && cs.length ≤ 3 && cs.all Char.isDigit && numberOf cs ≤ 255

/-- The word names a colour: by a name, by its place in the palette, or by its
    parts of red, green and blue. -/
def isColor (word : String) : Except Misuse Bool :=
  if colors.contains word
      || (greys.any fun g => word = "grey" ++ g || word = "gray" ++ g)
      || (word.length = 7 && word.startsWith "#" && (word.toList.drop 1).all isLowerHex)
      || (argument? "color(" word).any isPlace then
    .ok true
  else
    match argument? "rgb(" word with
    | some cs => isTriplet cs
    | none => .ok false

/-- The parts of a style that its name mentions. -/
structure Parts where
  attributes : List (String × Bool)
  color : Option String
  background : Option String
  link : Option String

/-- The parts that words mention, if they name a style. -/
def ofWords (parts : Parts) : List String → Except Misuse (Option Parts)
  | [] => .ok (some parts)
  | w :: rest => do
    let word := w.toLower
    match word, rest with
    | "on", color :: rest =>
      if ← isColor color.toLower then
        ofWords { parts with background := some color.toLower } rest
      else pure none
    | "not", name :: rest =>
      match attribute? name with
      | some a => ofWords { parts with attributes := (a, false) :: parts.attributes } rest
      | none => pure none
    | "link", url :: rest => ofWords { parts with link := some url } rest
    | "on", [] | "not", [] | "link", [] => pure none
    | _, rest =>
      match attribute? word with
      | some a => ofWords { parts with attributes := (a, true) :: parts.attributes } rest
      | none =>
        if ← isColor word then ofWords { parts with color := some word } rest else pure none

/-- The words of a name. -/
def wordsOf (name : String) : List String :=
  ((words name.length name.toList).map Text.trim).map String.ofList

/-- The name of the parts in normal form. -/
def Parts.name (p : Parts) : String :=
  let attributes := Style.attributes.filterMap fun a =>
    (p.attributes.lookup a.1).map fun set => if set then a.1 else "not " ++ a.1
  let all := attributes ++ p.color.toList
    ++ (p.background.map fun c => "on " ++ c).toList
    ++ (p.link.map fun url => "link " ++ url).toList
  if all.isEmpty then "none" else " ".intercalate all

/-- A name of a style in normal form. -/
def normalize (name : String) : Except Misuse String :=
  let plain := Text.stripped name
  if plain = "none" then .ok "none"
  else do
    match ← ofWords ⟨[], none, none, none⟩ (wordsOf name) with
    | some parts => pure parts.name
    | none => pure plain.toLower

end Parley.Terminal.Style

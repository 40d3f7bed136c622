import Parley.Yaml.Token

/-!
# Tags

The kind of a node: one of those that the common schema defines, or one that is
unknown. A node that is not tagged gets its tag from its form. A plain scalar
is a null, a truth value, a number, a date, or one of two special keys if it
looks like one (`Tag.ofPlain`), and a text otherwise.

Numbers are written in several bases, with underscores among their digits, or
in base sixty with colons. A date may be followed by a time and the offset of
its clock.
-/

namespace Parley.Yaml

/-- The kind of a node. -/
inductive Tag where
  | null
  | truth
  | integer
  | number
  | timestamp
  | text
  | octets
  | sequence
  | mapping
  | set
  | orderedMapping
  | pairs
  /-- The key whose value is merged into the mapping. -/
  | merge
  /-- The key whose value stands for the mapping where a scalar is expected. -/
  | default
  | unknown
  deriving DecidableEq, Repr

namespace Tag

/-- What the names of the common schema begin with. -/
def stem : String := "tag:yaml.org,2002:"

/-- The names of the common schema. -/
def named : List (String × Tag) :=
  [ ("null", .null), ("bool", .truth), ("int", .integer), ("float", .number),
    ("timestamp", .timestamp), ("str", .text), ("binary", .octets), ("seq", .sequence),
    ("map", .mapping), ("set", .set), ("omap", .orderedMapping), ("pairs", .pairs),
    ("merge", .merge), ("value", .default) ]

/-- The tag of a full name. -/
def ofName (name : String) : Tag :=
  if name.startsWith stem then
    (named.lookup (String.ofList (name.toList.drop stem.length))).getD .unknown
  else .unknown

/-! ### The forms of plain scalars -/

/-- The characters without the sign they begin with, if there is one. -/
def unsigned : List Char → List Char
  | '+' :: cs | '-' :: cs => cs
  | cs => cs

def isDigitOrUnderscore (c : Char) : Bool :=
  c.isDigit || c = '_'

/-- All characters, of which there is at least one, pass the test. -/
def some? (p : Char → Bool) (cs : List Char) : Bool :=
  !cs.isEmpty && cs.all p

/-- A digit, then digits and underscores. -/
def isGrouped : List Char → Bool
  | [] => false
  | c :: cs => c.isDigit && cs.all isDigitOrUnderscore

/-- The parts between colons. -/
def colonParts (cs : List Char) : List (List Char) :=
  cs.splitOn ':'

/-- A number from 0 to 59 in one or two digits. -/
def isSexagesimalDigit : List Char → Bool
  | [d] => d.isDigit
  | [t, d] => '0' ≤ t && t ≤ '5' && d.isDigit
  | _ => false

/-- A number in base sixty of at least two places. -/
def isSexagesimal (cs : List Char) : Bool :=
  match colonParts cs with
  | first :: rest => isGrouped first && !rest.isEmpty && rest.all isSexagesimalDigit
  | [] => false

def isHexDigit (c : Char) : Bool :=
  c.isDigit || ('a' ≤ c && c ≤ 'f') || ('A' ≤ c && c ≤ 'F')

/-- An integer: binary, octal, hexadecimal, decimal or in base sixty. -/
def isInteger (cs : List Char) : Bool :=
  let cs := unsigned cs
  cs = ['0'] || match cs with
    | '0' :: 'b' :: ds => some? (fun c => c = '0' || c = '1' || c = '_') ds
    | '0' :: 'x' :: ds => some? (fun c => isHexDigit c || c = '_') ds
    | '0' :: ds => some? (fun c => ('0' ≤ c && c ≤ '7') || c = '_') ds
    | cs => isGrouped cs || isSexagesimal cs

/-- Nothing, or an exponent with its sign. -/
def isExponentPart : List Char → Bool
  | [] => true
  | e :: sign :: ds => (e = 'e' || e = 'E') && (sign = '+' || sign = '-') && some? Char.isDigit ds
  | _ => false

/-- A number with a point, in base ten or sixty, or a name of an infinity or of
    the undefined number. -/
def isNumber (cs : List Char) : Bool :=
  let whole := (unsigned cs).takeWhile (· ≠ '.')
  let afterPoint := ((unsigned cs).dropWhile (· ≠ '.')).drop 1
  let hasPoint := (unsigned cs).contains '.'
  let places := afterPoint.takeWhile isDigitOrUnderscore
  let isFraction := isExponentPart (afterPoint.drop places.length)
  hasPoint
    && ((isGrouped whole && isFraction)
      || (isSexagesimal whole && afterPoint.all isDigitOrUnderscore)
      || (whole.isEmpty && ["inf", "Inf", "INF"].contains (String.ofList afterPoint))
      || (cs.head? = some '.' && isGrouped places && isFraction)
      || (cs.head? = some '.' && ["nan", "NaN", "NAN"].contains (String.ofList afterPoint)))

end Tag

/-! ### Dates and times -/

/-- A date, with its time and offset if they are given, as it is written. -/
structure Timestamp where
  year : List Char
  month : List Char
  day : List Char
  /-- Hour, minute, second and the digits of the fraction. -/
  time : Option (List Char × List Char × List Char × List Char)
  /-- The sign of the offset, its hours and its minutes. -/
  offset : Option (Bool × List Char × List Char)
  deriving Repr

namespace Timestamp

/-- Between `least` and `most` digits, and what follows them. -/
def digits? (least most : Nat) (cs : List Char) : Option (List Char × List Char) :=
  let ds := (cs.take most).takeWhile Char.isDigit
  if least ≤ ds.length then some (ds, cs.drop ds.length) else none

/-- What follows a character. -/
def after? (ch : Char) : List Char → Option (List Char)
  | c :: cs => if c = ch then some cs else none
  | [] => none

def isBlank (c : Char) : Bool :=
  c = ' ' || c = '\t'

/-- What follows the mark between date and time: a letter, or blanks. -/
def afterMark? : List Char → Option (List Char)
  | [] => none
  | c :: cs =>
    if c = 'T' ∨ c = 't' then some cs
    else if isBlank c then some (cs.dropWhile isBlank)
    else none

/-- The offset that makes up all of the characters; there may be none. -/
def offset? (cs : List Char) : Option (Option (Bool × List Char × List Char)) :=
  if cs.isEmpty then some none
  else
    match cs.dropWhile isBlank with
    | ['Z'] => some (some (false, [], []))
    | sign :: cs =>
      if sign = '+' ∨ sign = '-' then do
        let (hours, cs) ← digits? 1 2 cs
        if cs.isEmpty then some (some (sign = '-', hours, []))
        else
          let (minutes, cs) ← digits? 2 2 (← after? ':' cs)
          if cs.isEmpty then some (some (sign = '-', hours, minutes)) else none
      else none
    | [] => none

/-- The timestamp that the characters spell. -/
def parse? (cs : List Char) : Option Timestamp := do
  let (year, cs) ← digits? 4 4 cs
  let (month, cs) ← digits? 1 2 (← after? '-' cs)
  let (day, cs) ← digits? 1 2 (← after? '-' cs)
  if cs.isEmpty then some ⟨year, month, day, none, none⟩
  else
    let (hour, cs) ← digits? 1 2 (← afterMark? cs)
    let (minute, cs) ← digits? 2 2 (← after? ':' cs)
    let (second, cs) ← digits? 2 2 (← after? ':' cs)
    let (fraction, cs) := match cs with
      | '.' :: cs => (cs.takeWhile Char.isDigit, cs.dropWhile Char.isDigit)
      | cs => ([], cs)
    let offset ← offset? cs
    some ⟨year, month, day, some (hour, minute, second, fraction), offset⟩

/-- A plain scalar that spells this timestamp is tagged as one; a date alone
    needs two digits for its month and its day. -/
def isRecognised (t : Timestamp) : Bool :=
  t.time.isSome || (t.month.length = 2 && t.day.length = 2)

end Timestamp

/-- The tag of a scalar that is written plainly and not tagged. -/
def Tag.ofPlain (content : String) : Tag :=
  let cs := content.toList
  if ["yes", "Yes", "YES", "no", "No", "NO", "true", "True", "TRUE", "false", "False", "FALSE",
      "on", "On", "ON", "off", "Off", "OFF"].contains content then .truth
  else if isNumber cs then .number
  else if isInteger cs then .integer
  else if content = "<<" then .merge
  else if ["~", "null", "Null", "NULL", ""].contains content then .null
  else if (Timestamp.parse? cs).any Timestamp.isRecognised then .timestamp
  else if content = "=" then .default
  else if ["!", "&", "*"].contains content then .unknown
  else .text

end Parley.Yaml

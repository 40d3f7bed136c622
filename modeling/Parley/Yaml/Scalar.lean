import Parley.Binary64.Reading
import Parley.Yaml.Base64
import Parley.Yaml.Tag

/-!
# The values of scalars

What the content of a scalar stands for under its tag (`Scalar.value`). A tag
may be given to content that does not look like it, so every reading here can
fail: an integer may be cut short, a date may not exist.
-/

namespace Parley.Yaml.Scalar

/-- The characters without their underscores. -/
def ungrouped (content : String) : List Char :=
  content.toList.filter (· ≠ '_')

/-- The characters after the mark of a base, if they begin with it. -/
def afterBaseMark (base : Nat) : List Char → List Char
  | '0' :: m :: cs =>
    let marks := if base = 2 then ['b', 'B'] else if base = 8 then ['o', 'O']
      else if base = 16 then ['x', 'X'] else []
    if marks.contains m then cs else '0' :: m :: cs
  | cs => cs

/-- An integer of a base, with a sign and the mark of the base if they are
    there, blanks around it aside. -/
def whole (base : Nat) (cs : List Char) : Except ContentFault Int :=
  let failure := ContentFault.integer base (String.ofList cs)
  let (negative, body) := Binary64.spanSign (Text.trim cs)
  match (afterBaseMark base body).mapM Text.alphanumericDigit? with
  | none => .error failure
  | some ds =>
    if ds.isEmpty || ds.any (base ≤ ·) then .error failure
    else if base = 10 ∧ Text.maxDigits < ds.length then .error (.integerLength ds.length)
    else .ok (Binary64.signed negative (Binary64.ofDigits base ds))

/-- The content without its sign, and the sign; content of no characters has no
    place for one. -/
def splitSign : List Char → Except Refusal (Bool × List Char)
  | [] => .error (.misuse .position)
  | c :: cs => .ok (c = '-', if c = '-' ∨ c = '+' then cs else c :: cs)

/-- An integer of the base that its first characters say, or in base sixty. -/
def integer (content : String) : Except Refusal Int := do
  let (negative, cs) ← splitSign (ungrouped content)
  let magnitude ← match cs with
    | [] => throw (.misuse .position)
    | ['0'] => pure 0
    | '0' :: 'b' :: ds => (whole 2 ds).mapError .content
    | '0' :: 'x' :: ds => (whole 16 ds).mapError .content
    | '0' :: _ => (whole 8 cs).mapError .content
    | _ => do
      let places ← ((Tag.colonParts cs).mapM (whole 10)).mapError Refusal.content
      pure (places.foldl (fun n d => 60 * n + d) 0)
  pure (if negative then -magnitude else magnitude)

/-- A decimal floating-point number. -/
def decimal (cs : List Char) : Except Refusal Binary64 :=
  match Binary64.read? (String.ofList cs) with
  | some x => .ok x
  | none => .error (.content (.number (String.ofList cs)))

/-- The sum of the places of a number in base sixty, the last place first;
    `weight` is what the next place counts. -/
def sumPlaces (weight : Nat) (sum : Binary64) : List Binary64 → Except Refusal Binary64
  | [] => .ok sum
  | d :: ds =>
    match Binary64.ofInt? weight with
    | some w => sumPlaces (60 * weight) (sum.add (d.mul w)) ds
    | none => .error (.misuse .overflow)

/-- A floating-point number, in base ten or sixty. -/
def number (content : String) : Except Refusal Binary64 := do
  let (negative, cs) ← splitSign ((ungrouped content).map Char.toLower)
  let magnitude ←
    if cs = ".inf".toList then pure (.infinite false)
    else if cs = ".nan".toList then pure .nan
    else if cs.contains ':' then
      let places ← (Tag.colonParts cs).mapM decimal
      sumPlaces 1 .zero places.reverse
    else decimal cs
  pure (if negative then magnitude.neg else magnitude)

/-- One of the words for true and false, in any case of letters. -/
def truth (content : String) : Except Refusal Bool :=
  let word := String.ofList (content.toList.map Char.toLower)
  if ["yes", "true", "on"].contains word then .ok true
  else if ["no", "false", "off"].contains word then .ok false
  else .error (.misuse .key)

/-! ### Dates -/

def digitsValue (cs : List Char) : Nat :=
  cs.foldl (fun n d => 10 * n + (d.toNat - 0x30)) 0

/-- The minutes by which an offset shifts the clock, less than a day's. -/
def offsetMinutes : Bool × List Char × List Char → Except CalendarPart Int
  | (negative, hours, minutes) =>
    let size := 60 * digitsValue hours + digitsValue minutes
    let shift : Int := if negative then -size else size
    if size < 1440 then .ok shift else .error (.offset shift)

/-- The first part of a date that is out of range. -/
def checkDate (d : Date) : Except CalendarPart Unit := do
  if d.year = 0 then throw (.year d.year)
  unless 1 ≤ d.month && d.month ≤ 12 do throw .month
  unless 1 ≤ d.day && d.day ≤ Date.daysIn d.year d.month do throw .day

/-- The date or the moment that a timestamp names. -/
def calendarValue (t : Timestamp) : Except CalendarPart Value := do
  let date : Date := ⟨digitsValue t.year, digitsValue t.month, digitsValue t.day⟩
  match t.time with
  | none => do
    checkDate date
    pure (.date date)
  | some (hour, minute, second, fraction) => do
    let offset ← t.offset.mapM offsetMinutes
    checkDate date
    let places := (fraction ++ List.replicate 6 '0').take 6
    let m : Moment :=
      ⟨date, digitsValue hour, digitsValue minute, digitsValue second, digitsValue places, offset⟩
    unless m.hour < 24 do throw .hour
    unless m.minute < 60 do throw .minute
    unless m.second < 60 do throw .second
    pure (.moment m)

def timestamp (content : String) : Except Refusal Value :=
  match Timestamp.parse? content.toList with
  | some t => (calendarValue t).mapError fun part => .content (.calendar part)
  | none => .error (.misuse .part)

/-- Octets in base 64, written in ASCII. -/
def octets (content : String) : Except Refusal (List UInt8) :=
  if content.toList.all fun c => c.toNat < 128 then
    match Base64.decode content.toList with
    | some bytes => .ok bytes
    | none => .error .construction
  else .error .construction

/-- The value of a scalar; a tag of a collection, a special key or an unknown
    tag gives it none. -/
def value (tag : Tag) (content : String) : Except Refusal Value :=
  match tag with
  | .null => .ok .null
  | .truth => Value.bool <$> truth content
  | .integer => Value.int <$> integer content
  | .number => Value.float <$> number content
  | .timestamp => timestamp content
  | .text => .ok (.text content)
  | .octets => Value.bytes <$> octets content
  | _ => .error .construction

end Parley.Yaml.Scalar

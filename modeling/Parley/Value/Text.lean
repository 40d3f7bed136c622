import Parley.Value.Basic
import Parley.Value.Misuse
import Parley.Binary64.Shortest
import Parley.Text.Quoted

/-!
# The text of values

Two ways of writing a value: `display`, in which a text stands for itself, and
`literal`, in which it is quoted. Inside collections every value is written
as a literal.

A value with an integer of too many digits in it cannot be written in either way
(`isWritable`). For all others, `plain` and `quoted` are what is written.
-/

namespace Parley.Value

/-- One octet between apostrophes or double quotes. -/
def escapeOctet (q : Char) (o : UInt8) : List Char :=
  let c := Char.ofNat o.toNat
  if c = q || c = '\\' then ['\\', c]
  else if c = '\n' then ['\\', 'n']
  else if c = '\r' then ['\\', 'r']
  else if c = '\t' then ['\\', 't']
  else if 0x20 ≤ o ∧ o < 0x7f then [c]
  else '\\' :: 'x' :: Text.hexDigits 2 o.toNat

/-- Octets as they are written inside other values. -/
def octetsLiteral (octets : List UInt8) : String :=
  let q := Text.quoteFor (octets.map fun o => Char.ofNat o.toNat)
  String.ofList ('b' :: q :: octets.flatMap (escapeOctet q) ++ [q])

mutual

/-- No integer in the value has too many digits to be written. -/
def isWritable : Value → Bool
  | .int n => Text.isWritable n
  | .list items | .tuple items | .set items => areWritable items
  | .record entries => areWritableEntries entries
  | .null | .bool _ | .float _ | .text _ | .date _ | .moment _ | .bytes _ => true

def areWritable : List Value → Bool
  | [] => true
  | v :: vs => v.isWritable && areWritable vs

def areWritableEntries : List (Value × Value) → Bool
  | [] => true
  | (k, v) :: es => k.isWritable && v.isWritable && areWritableEntries es

end

mutual

/-- A value that can be written, as it is written inside other values. -/
def quoted : Value → String
  | .null => "None"
  | .bool true => "True"
  | .bool false => "False"
  | .int n => toString n
  | .float x => x.text
  | .text s => Text.quote s
  | .list items => "[" ++ ", ".intercalate (quotedItems items) ++ "]"
  | .tuple [item] => "(" ++ item.quoted ++ ",)"
  | .tuple items => "(" ++ ", ".intercalate (quotedItems items) ++ ")"
  | .record entries => "\x7b" ++ ", ".intercalate (quotedEntries entries) ++ "\x7d"
  | .date d => d.literal
  | .moment m => m.literal
  | .bytes octets => octetsLiteral octets
  | .set [] => "set()"
  | .set members => "\x7b" ++ ", ".intercalate (quotedItems members) ++ "\x7d"

def quotedItems : List Value → List String
  | [] => []
  | v :: vs => v.quoted :: quotedItems vs

def quotedEntries : List (Value × Value) → List String
  | [] => []
  | (k, v) :: es => (k.quoted ++ ": " ++ v.quoted) :: quotedEntries es

end

/-- A value that can be written, as a text of its own. -/
def plain : Value → String
  | .text s => s
  | .date d => d.text
  | .moment m => m.text
  | v => v.quoted

theorem areWritable_iff {vs : List Value} :
    areWritable vs = true ↔ ∀ v ∈ vs, v.isWritable = true := by
  induction vs with
  | nil => simp [areWritable]
  | cons v vs ih => simp [areWritable, ih]

@[simp] theorem isWritable_text (s : String) : isWritable (.text s) = true := rfl

/-- The name of the kind of a value. -/
def kindName : Value → String
  | .null => "NoneType"
  | .bool _ => "bool"
  | .int _ => "int"
  | .float _ => "float"
  | .text _ => "str"
  | .list _ => "list"
  | .tuple _ => "tuple"
  | .record _ => "dict"
  | .date _ => "date"
  | .moment _ => "datetime"
  | .bytes _ => "bytes"
  | .set _ => "set"

/-- The words for a value, if it can be written. -/
def written (v : Value) (words : String) : Except Misuse String :=
  if v.isWritable then .ok words else .error .digits

/-- The value as it is written inside other values. -/
def literal (v : Value) : Except Misuse String :=
  v.written v.quoted

/-- The value as a text of its own. -/
def display (v : Value) : Except Misuse String :=
  v.written v.plain

section

variable {v : Value}

theorem literal_of_isWritable (h : v.isWritable = true) : v.literal = .ok v.quoted :=
  if_pos h

theorem literal_of_not_isWritable (h : v.isWritable = false) : v.literal = .error .digits :=
  if_neg (ne_true_of_eq_false h)

theorem display_of_isWritable (h : v.isWritable = true) : v.display = .ok v.plain :=
  if_pos h

theorem display_of_not_isWritable (h : v.isWritable = false) : v.display = .error .digits :=
  if_neg (ne_true_of_eq_false h)

end

end Parley.Value

import Parley.Terminal.Wrap
import Parley.Value.Text

/-!
# Values over several lines

A value is shown as it is written inside other values, on one line if that is
wide enough. Otherwise its parts stand on lines of their own, indented by four
columns, and so on for parts that are too wide.
-/

namespace Parley.Terminal

/-- A value on its way to the terminal: words, or parts between brackets. -/
inductive Shape where
  | words (cs : String)
  /-- `lone` marks the one part of a sequence of one that needs a comma. -/
  | parts (opening closing : String) (lone : Bool) (items : List (String × Shape))

namespace Shape

/-- A value as it is written inside others; one that cannot be written is reported in its
    place. -/
def literalOf (v : Value) : String :=
  match v.literal with
  | .ok s => s
  | .error cause => "<repr-error " ++ Text.quote (cause.message?.getD "") ++ ">"

mutual

/-- The shape of a value. -/
def ofValue : Value → Shape
  | .list (v :: vs) => .parts "[" "]" false (ofItems (v :: vs))
  | .tuple (v :: vs) => .parts "(" ")" vs.isEmpty (ofItems (v :: vs))
  | .set (v :: vs) => .parts "\x7b" "\x7d" false (ofItems (v :: vs))
  | .record (e :: es) => .parts "\x7b" "\x7d" false (ofEntries (e :: es))
  | v => .words (literalOf v)

def ofItems : List Value → List (String × Shape)
  | [] => []
  | v :: vs => ("", ofValue v) :: ofItems vs

def ofEntries : List (Value × Value) → List (String × Shape)
  | [] => []
  | (k, v) :: es => (literalOf k ++ ": ", ofValue v) :: ofEntries es

end

mutual

/-- The shape on one line. -/
def flat : Shape → String
  | .words s => s
  | .parts opening closing lone items =>
    opening ++ ", ".intercalate (flatItems items) ++ (if lone then "," else "") ++ closing

def flatItems : List (String × Shape) → List String
  | [] => []
  | (key, s) :: rest => (key ++ s.flat) :: flatItems rest

end

def width (s : String) : Nat := cells s.toList

mutual

/-- The lines of a shape after `indent` spaces and a key, before `suffix`; the
    line is full if less than `room` columns are left after it. -/
def lines (most indent room : Nat) (key suffix : String) : Shape → List String
  | .words s => ["".pushn ' ' indent ++ key ++ s ++ suffix]
  | .parts opening closing lone items =>
    let flat := (Shape.parts opening closing lone items).flat
    let before := "".pushn ' ' indent
    if indent + width key + width flat + room ≤ most then [before ++ key ++ flat ++ suffix]
    else
      (before ++ key ++ opening) :: itemLines most (indent + 4) lone items
        ++ [before ++ closing ++ suffix]

/-- The lines of the parts between two brackets. Room is left for a comma and a
    blank even after the last part, and for the comma after a lone one. -/
def itemLines (most indent : Nat) (lone : Bool) : List (String × Shape) → List String
  | [] => []
  | (key, s) :: rest =>
    let suffix := if rest.isEmpty && !lone then "" else ","
    lines most indent (if lone then 1 else 2) key suffix s ++ itemLines most indent lone rest

end

end Shape

/-- The lines in which a value is shown, of at most `most` columns where it can
    be broken. -/
def valueLines (most : Nat) (v : Value) : List String :=
  (Shape.ofValue v).lines most 0 0 "" ""

end Parley.Terminal

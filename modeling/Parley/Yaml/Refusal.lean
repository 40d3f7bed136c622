import Parley.Value.Text

/-!
# Refusals

Why a text is not taken as a YAML document: a character that no document may
hold, characters that form no token, tokens that form no document, nodes that
refer to nothing or to each other in the wrong way, and nodes whose tag does
not fit their content.

A scalar that is tagged as a number or a date but is none is refused with a
wording of its own (`ContentFault.message`).

Two refusals stand for documents that are read elsewhere, but to what no value
is: a node that contains itself, and a text with a surrogate
(`Refusal.isUnrepresented`).
-/

namespace Parley.Yaml

/-- A part of a date or time that is out of range. -/
inductive CalendarPart where
  | year (given : Nat)
  | month
  | day
  | hour
  | minute
  | second
  /-- A clock at least one day off, in minutes. -/
  | offset (minutes : Int)
  deriving DecidableEq, Repr

/-- The content of a scalar does not spell a value of its kind. -/
inductive ContentFault where
  | integer (base : Nat) (content : String)
  /-- A decimal integer of more digits than are read. -/
  | integerLength (digits : Nat)
  | number (content : String)
  | calendar (part : CalendarPart)
  /-- An escaped code point past the last one. -/
  | codePoint
  deriving DecidableEq, Repr

def CalendarPart.message : CalendarPart → String
  | .year given => s!"year {given} is out of range"
  | .month => "month must be in 1..12"
  | .day => "day is out of range for month"
  | .hour => "hour must be in 0..23"
  | .minute => "minute must be in 0..59"
  | .second => "second must be in 0..59"
  | .offset minutes =>
    "offset must be a timedelta strictly between -timedelta(hours=24) and timedelta(hours=24), not "
      ++ Moment.durationLiteral minutes ++ "."

def ContentFault.message : ContentFault → String
  | .integer base content =>
    s!"invalid literal for int() with base {base}: "
      ++ String.ofList ((Text.quote content).toList.take 200)
  | .integerLength digits => Misuse.digitsRead digits
  | .number content => "could not convert string to float: " ++ Text.quote content
  | .calendar part => part.message
  | .codePoint => "chr() arg not in range(0x110000)"

/-- Why a text is not taken as a document. -/
inductive Refusal where
  /-- A character that no document may hold. -/
  | character
  /-- Characters that form no token, or a token out of place. -/
  | token
  /-- Tokens that do not form a document. -/
  | grammar
  /-- An alias or an anchor without its counterpart, or a second document. -/
  | composition
  /-- A tag that is unknown or does not fit its node. -/
  | construction
  | content (cause : ContentFault)
  | misuse (cause : Misuse)
  /-- A node that contains itself. -/
  | selfReference
  /-- Half of a pair of code points that stands for one character. -/
  | surrogate
  deriving DecidableEq, Repr

/-- The document is read elsewhere, but no value stands for what it holds. -/
def Refusal.isUnrepresented : Refusal → Bool
  | .selfReference | .surrogate => true
  | _ => false

/-- The wording of the refusals that are reported in words. -/
def Refusal.message? : Refusal → Option String
  | .content cause => some cause.message
  | .misuse cause => cause.message?
  | _ => none

end Parley.Yaml

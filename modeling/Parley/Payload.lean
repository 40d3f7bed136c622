import Parley.Value.Text

/-!
# Payloads

What a flow shows and what it asks for. Texts and markdown are shown; a free
text of bounded length or one of several options is asked for.
-/

namespace Parley

/-- Content to show, or the description of an input to ask for. -/
inductive Payload where
  | text (content : String)
  | markdown (source : String)
  | freeText (maxLength : Int)
  | choice (options : List String)
  deriving DecidableEq, Inhabited, Repr

/-- The bound on a free text where none is given. -/
def defaultMaxLength : Int := 100

namespace Payload

/-- The text of content to show; what is asked for has none. -/
def text? : Payload → Option String
  | .text s | .markdown s => some s
  | .freeText _ | .choice _ => none

/-- Replaces the text of content to show; what is asked for stays as it is. -/
def withText (s : String) : Payload → Payload
  | .text _ => .text s
  | .markdown _ => .markdown s
  | p => p

/-- The payload as it is written in a description of its emitter. -/
def literal : Payload → Except Misuse String
  | .text s => .ok ("TextOutput(kind='text', text=" ++ Text.quote s ++ ")")
  | .markdown s => .ok ("MarkdownOutput(kind='markdown', text=" ++ Text.quote s ++ ")")
  | .freeText n => do
    let most ← (Value.int n).literal
    pure ("FreeTextExpectation(kind='free_text', max_length=" ++ most ++ ")")
  | .choice options =>
    .ok ("ChoiceExpectation(kind='choice', options=["
      ++ ", ".intercalate (options.map Text.quote) ++ "])")

end Payload

end Parley

/-!
# Templates

A template is a text with placeholders: `$name` and `${name}`, where a name is
an ASCII letter or underscore followed by letters, digits and underscores, and
`$$`, which stands for one dollar sign. A placeholder whose name has no value,
and a dollar sign that begins none of these, stay as they are.

`fill` goes through the text once, from left to right, so what it inserts is
never looked at again.
-/

namespace Parley.Template

def isNameStart (c : Char) : Bool :=
  c.isAlpha || c = '_'

def isNamePart (c : Char) : Bool :=
  c.isAlphanum || c = '_'

/-- The name that the characters begin with, empty if they begin with none. -/
def name : List Char → List Char
  | [] => []
  | c :: cs => if isNameStart c then c :: cs.takeWhile isNamePart else []

/-- What follows a dollar sign. -/
inductive Placeholder where
  /-- A second dollar sign. -/
  | dollar
  /-- A name, in braces or not. -/
  | named (name : List Char) (braced : Bool)
  /-- Anything else. -/
  | stray
  deriving DecidableEq, Repr

/-- The placeholder that begins with a dollar sign before these characters. -/
def placeholder : List Char → Placeholder
  | '$' :: _ => .dollar
  | '{' :: cs =>
    let n := name cs
    if n ≠ [] ∧ cs[n.length]? = some '}' then .named n true else .stray
  | cs =>
    let n := name cs
    if n ≠ [] then .named n false else .stray

/-- How many characters after the dollar sign a placeholder takes. -/
def Placeholder.length : Placeholder → Nat
  | .dollar => 1
  | .named n braced => n.length + if braced then 2 else 0
  | .stray => 0

/-- What stands in place of a placeholder, `taken` being its characters. -/
def Placeholder.replacement (value? : String → Option String) (taken : List Char) :
    Placeholder → List Char
  | .dollar => ['$']
  | .stray => ['$']
  | .named n _ =>
    match value? (String.ofList n) with
    | some v => v.toList
    | none => '$' :: taken

/-- Replaces the placeholders after the first `skip` characters, which belong
    to one that has been replaced. -/
def fillAfter (value? : String → Option String) : Nat → List Char → List Char
  | _, [] => []
  | skip + 1, _ :: cs => fillAfter value? skip cs
  | 0, c :: cs =>
    if c = '$' then
      let p := placeholder cs
      p.replacement value? (cs.take p.length) ++ fillAfter value? p.length cs
    else c :: fillAfter value? 0 cs

/-- Replaces the placeholders whose names have a value. -/
def fill (value? : String → Option String) (cs : List Char) : List Char :=
  fillAfter value? 0 cs

theorem fillAfter_eq (value? : String → Option String) (skip : Nat) (cs : List Char) :
    fillAfter value? skip cs = fill value? (cs.drop skip) := by
  induction cs generalizing skip with
  | nil => simp [fill, fillAfter]
  | cons c cs ih =>
    cases skip with
    | zero => rfl
    | succ n => simpa [fillAfter] using ih n

/-- The text with its placeholders replaced. -/
def render (value? : String → Option String) (s : String) : String :=
  String.ofList (fill value? s.toList)

end Parley.Template

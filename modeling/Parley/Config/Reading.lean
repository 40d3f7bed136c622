import Parley.Config.Issue
import Parley.Config.Schema
import Parley.Value.Mapping
import Parley.Binary64.Reading

/-!
# Reading configurations

Which values describe a configuration, and which one. Texts have to be texts,
but whole numbers may also be given as truth values, as floating-point numbers
without a fraction or as text, and truth values as one and zero or as words.
Fields that a record does not know are ignored, and fields that are not given
have their defaults.

Content to show, and what is asked for, are records of one of two kinds, told
apart by their field `kind`.

The issues of all fields are gathered in the order of the fields; the rules
about several fields of a record are checked once each field is in order.
-/

namespace Parley.Config

/-! ### Scalars -/

/-- The text of octets in the common encoding. -/
def utf8? (octets : List UInt8) : Option String :=
  String.fromUTF8? (ByteArray.mk octets.toArray)

/-- A text, or octets that are one. -/
def text : Value → Checked String
  | .text s => .ok s
  | .bytes octets =>
    match utf8? octets with
    | some s => .ok s
    | none => .fail .textUnreadable
  | _ => .fail .textExpected

/-- A blank at the ends of a number or of a word. -/
def isSpace (c : Char) : Bool :=
  Text.isBlank c && !(28 ≤ c.toNat && c.toNat ≤ 31)

def trimSpace (cs : List Char) : List Char :=
  ((cs.dropWhile isSpace).reverse.dropWhile isSpace).reverse

/-- The digits after the zeros in front, among which underscores do not
    matter; a zero before a point stays. -/
def afterLeadingZeros (last : Char) : List Char → Option (List Char)
  | [] => some [last]
  | c :: cs =>
    if c = '0' ∨ c = '_' then afterLeadingZeros c cs
    else if '1' ≤ c ∧ c ≤ '9' then some (c :: cs)
    else if c = '.' then some (last :: c :: cs)
    else none

def stripLeadingZeros : List Char → Option (List Char)
  | '0' :: cs => afterLeadingZeros '0' cs
  | c :: cs => if ('1' ≤ c ∧ c ≤ '9') ∨ c = '-' then some (c :: cs) else none
  | [] => none

/-- Drops a point after which there are only zeros. -/
def stripZeroPlaces (cs : List Char) : List Char :=
  if (cs.dropWhile (· ≠ '.')).drop 1 |>.all (· = '0') then cs.takeWhile (· ≠ '.') else cs

def hasDoubleUnderscore : List Char → Bool
  | '_' :: '_' :: _ => true
  | _ :: cs => hasDoubleUnderscore cs
  | [] => false

/-- Drops single underscores between other characters; elsewhere they stay. -/
def stripUnderscores (cs : List Char) : List Char :=
  if cs.head? = some '_' ∨ cs.getLast? = some '_' ∨ hasDoubleUnderscore cs then cs
  else cs.filter (· ≠ '_')

/-- A whole number with an optional sign, in ASCII digits. -/
def plainInteger? (cs : List Char) : Option Int :=
  let (negative, ds) := match cs with
    | '-' :: ds => (true, ds)
    | '+' :: ds => (false, ds)
    | ds => (false, ds)
  if !ds.isEmpty && ds.all Char.isDigit then
    let n : Int := Binary64.ofDigits 10 (ds.map fun c => c.toNat - 0x30)
    some (if negative then -n else n)
  else none

/-- A whole number in text: an optional sign, digits with zeros in front and
    underscores among them, and perhaps a point with zeros after it. -/
def integerOfText (s : String) : Checked Int :=
  let cs := trimSpace s.toList
  let unsigned := match cs with
    | '+' :: '-' :: _ => none
    | '+' :: cs => some cs
    | cs => some cs
  match unsigned.bind stripLeadingZeros with
  | none => .fail .integerUnreadable
  | some cs =>
    let cs := stripUnderscores (stripZeroPlaces cs)
    if Text.maxDigits < cs.length then .fail .integerOversized
    else
      match plainInteger? cs with
      | some n => .ok n
      | none => .fail .integerUnreadable

/-- Where the integers of 64 bits end: they are less than this and at least its
    opposite. -/
def wideBound : Int := 0x8000000000000000

/-- A floating-point number without a fraction, in the range of 64-bit
    integers. -/
def integerOfFloat (x : Binary64) : Checked Int :=
  match x with
  | .nan | .infinite _ => .fail .numberInfinite
  | .finite .. =>
    match x.toInt? with
    | none => .fail .integerFractional
    | some n => if -wideBound < n ∧ n < wideBound then .ok n else .fail .integerOversized

def integer : Value → Checked Int
  | .int n => .ok n
  | .bool b => .ok (if b then 1 else 0)
  | .float x => integerOfFloat x
  | .text s => integerOfText s
  | .bytes octets =>
    match utf8? octets with
    | some s => integerOfText s
    | none => .fail .integerUnreadable
  | _ => .fail .integerExpected

def positive (v : Value) : Checked Int :=
  (integer v).bind fun n => if 0 < n then .ok n else .fail .notPositive

def trueWords : List String := ["1", "on", "t", "true", "y", "yes"]

def falseWords : List String := ["0", "off", "f", "false", "n", "no"]

/-- A truth value in a word, in any case of letters. -/
def truthOfText (s : String) : Checked Bool :=
  let word := String.ofList (s.toList.map Char.toLower)
  if trueWords.contains word then .ok true
  else if falseWords.contains word then .ok false
  else .fail .truthUnreadable

def truthOfInteger (n : Int) : Checked Bool :=
  if n = 0 then .ok false
  else if n = 1 then .ok true
  else .fail .truthUnreadable

def truth : Value → Checked Bool
  | .bool b => .ok b
  | .text s => truthOfText s
  | .bytes octets =>
    match utf8? octets with
    | some s => truthOfText s
    | none => .fail .truthUnreadable
  | .int n => if -wideBound ≤ n ∧ n < wideBound then truthOfInteger n else .fail .truthExpected
  | .float x =>
    match integerOfFloat x with
    | .ok n => truthOfInteger n
    | .issues _ => .fail .truthExpected
  | _ => .fail .truthExpected

/-! ### Collections and records -/

/-- Null, or what another reading accepts. -/
def optional {α : Type} (read : Value → Checked α) : Value → Checked (Option α)
  | .null => .ok none
  | v => some <$> read v

def listItems : Value → Checked (List Value)
  | .list items | .tuple items | .set items => .ok items
  | _ => .fail .listExpected

/-- Pairs each item with its position. -/
def numbered {α : Type} (xs : List α) : List (Nat × α) :=
  (List.range xs.length).zip xs

def listOf {α : Type} (read : Value → Checked α) (v : Value) : Checked (List α) :=
  (listItems v).bind fun items =>
    Checked.each (fun i => (read i.2).inside (.index i.1)) (numbered items)

def nonempty {α : Type} (xs : List α) : Checked (List α) :=
  if xs.isEmpty then .fail .listEmpty else .ok xs

/-- The words for a value in an issue, its kind if it cannot be written. -/
def wordsOr (v : Value) (words : Except Misuse String) : String :=
  words.toOption.getD s!"<unprintable {v.kindName} object>"

/-- The place of an entry of a record. -/
def keyStep : Value → Step
  | .text s => .field s
  | .bool b => .index (if b then 1 else 0)
  | .int n =>
    if -wideBound ≤ n ∧ n < wideBound then .index n
    else .field (wordsOr (.int n) (Value.int n).literal)
  | v => .field (wordsOr v v.literal)

/-- A record with textual keys. -/
def recordOf {α : Type} (read : Value → Checked α) : Value → Checked (List (String × α))
  | .record entries =>
    let entry (e : Value × Value) : Checked (String × α) :=
      Prod.mk <$> ((text e.1).inside (.field "[key]")).inside (keyStep e.1)
        <*> (read e.2).inside (keyStep e.1)
    (fun es => es.foldl (fun acc e => put e.1 e.2 acc) []) <$> Checked.each entry entries
  | _ => .fail .recordExpected

/-- The fields of a record of a kind. -/
def fieldsOf (model : Model) : Value → Checked Mapping
  | .record entries => .ok entries
  | _ => .fail (.modelExpected model)

def field? (fields : Mapping) (name : String) : Option Value :=
  Mapping.find? fields (.text name)

/-- A field that has to be given. -/
def required {α : Type} (fields : Mapping) (name : String) (read : Value → Checked α) :
    Checked α :=
  match field? fields name with
  | some v => (read v).inside (.field name)
  | none => (Checked.fail .missing).inside (.field name)

/-- A field with a default. -/
def withDefault {α : Type} (fields : Mapping) (name : String) (read : Value → Checked α)
    (default : α) : Checked α :=
  match field? fields name with
  | some v => (read v).inside (.field name)
  | none => .ok default

/-! ### Payloads -/

/-- A record of one of several kinds, told apart by its field `kind`. -/
def tagged {α : Type} (kinds : List (String × (Mapping → Checked α))) : Value → Checked α
  | .record fields =>
    match field? fields "kind" with
    | none => .fail .tagMissing
    | some tag =>
      match kinds.find? fun k => tag.sameKey (.text k.1) with
      | some (name, read) => (read fields).inside (.field name)
      | none => .fail (.tagUnknown (wordsOr tag tag.display) (kinds.map Prod.fst))
  | _ => .fail .fieldsExpected

/-- Content to show. -/
def output : Value → Checked Payload :=
  tagged
    [ ("text", fun fields => .text <$> required fields "text" text),
      ("markdown", fun fields => .markdown <$> required fields "text" text) ]

/-- What is asked for. -/
def expectation : Value → Checked Payload :=
  tagged
    [ ("free_text", fun fields =>
        .freeText <$> withDefault fields "max_length" positive defaultMaxLength),
      ("choice", fun fields =>
        .choice <$> required fields "options" fun v => (listOf text v).bind nonempty) ]

/-! ### The parts of a configuration -/

def branch (v : Value) : Checked BranchConfig :=
  (fieldsOf .branch v).bind fun fields =>
    BranchConfig.mk <$> required fields "key" text
      <*> required fields "cases" (recordOf text)
      <*> withDefault fields "default" (optional text) none

/-- The texts that a node names are given, null and the empty text aside. -/
def isGiven : Option String → Bool
  | some s => !s.isEmpty
  | none => false

/-- A node routes in one way only. -/
def routing (n : NodeConfig) : Checked NodeConfig :=
  if n.next.isSome && n.branch.isSome then .fail (.rule .nextOrBranch)
  else if n.decide.isSome
      && (isGiven n.store || !n.patch.isEmpty || isGiven n.next || n.branch.isSome) then
    .fail (.rule .decideAlone)
  else .ok n

def node (v : Value) : Checked NodeConfig :=
  (fieldsOf .node v).bind fun fields =>
    let read := NodeConfig.mk <$> withDefault fields "output" (optional output) none
      <*> withDefault fields "output_transform" (optional text) none
      <*> withDefault fields "expectation" (optional expectation) none
      <*> withDefault fields "expectation_transform" (optional text) none
      <*> withDefault fields "store" (optional text) none
      <*> withDefault fields "patch" (recordOf Checked.ok) []
      <*> withDefault fields "next" (optional text) none
      <*> withDefault fields "branch" (optional branch) none
      <*> withDefault fields "decide" (optional text) none
    read.bind routing

/-- A flow with its root, the first of its nodes where none is given. -/
def flowOf (description : String) (nodes : List String) (root next decide : Option String) :
    Checked FlowConfig :=
  let root := root.getD (nodes.head?.getD "")
  if next.isSome && decide.isSome then .fail (.rule .nextOrDecide)
  else if nodes.contains root then .ok ⟨description, nodes, root, next, decide⟩
  else .fail (.rule (.rootListed root))

def flow (v : Value) : Checked FlowConfig :=
  (fieldsOf .flow v).bind fun fields =>
    let read := flowOf <$> withDefault fields "description" text ""
      <*> required fields "nodes" (fun v => (listOf text v).bind nonempty)
      <*> withDefault fields "root" (optional text) none
      <*> withDefault fields "next" (optional text) none
      <*> withDefault fields "decide" (optional text) none
    read.bind id

def logLevel (v : Value) : Checked LogLevel :=
  match v with
  | .text "DEBUG" => .ok .debug
  | .text "INFO" => .ok .info
  | .text "WARNING" => .ok .warning
  | .text "ERROR" => .ok .error
  | _ => .fail .levelUnknown

def settings (v : Value) : Checked Settings :=
  (fieldsOf .settings v).bind fun fields =>
    Settings.mk <$> withDefault fields "log_level" logLevel .warning
      <*> withDefault fields "log_file" (optional text) none
      <*> withDefault fields "show_state" truth false

def supported (c : FlowFile) : Checked FlowFile :=
  if c.version = currentVersion then .ok c else .fail (.rule (.version c.version))

/-- The configuration that a value describes. -/
def ofValue (v : Value) : Checked FlowFile :=
  (fieldsOf .config v).bind fun fields =>
    let read := FlowFile.mk <$> withDefault fields "version" text currentVersion
      <*> withDefault fields "root" text defaultRoot
      <*> withDefault fields "settings" settings defaultSettings
      <*> withDefault fields "nodes" (recordOf node) []
      <*> withDefault fields "flows" (recordOf flow) []
    read.bind supported

end Parley.Config

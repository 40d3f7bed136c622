import Parley.Value.Text

/-!
# Issues

What is wrong with a value that should describe a configuration: a list of
issues, each a complaint with the place it is about. `Checked` collects the
issues of all parts of a value, in their order, where a computation that stops
at its first failure would report only one.
-/

namespace Parley.Config

/-- The kinds of records that make up a configuration. -/
inductive Model where
  | textOutput
  | markdownOutput
  | freeText
  | choice
  | branch
  | node
  | flow
  | settings
  | config
  deriving DecidableEq, Repr

def Model.name : Model → String
  | .textOutput => "TextOutput"
  | .markdownOutput => "MarkdownOutput"
  | .freeText => "FreeTextExpectation"
  | .choice => "ChoiceExpectation"
  | .branch => "BranchConfig"
  | .node => "NodeConfig"
  | .flow => "FlowConfig"
  | .settings => "SettingsConfig"
  | .config => "NestflowConfig"

/-- A rule about several fields of a record. -/
inductive Rule where
  | nextOrBranch
  | decideAlone
  | nextOrDecide
  | rootListed (root : String)
  | version (given : String)
  deriving DecidableEq, Repr

def Rule.message : Rule → String
  | .nextOrBranch => "'next' and 'branch' are mutually exclusive"
  | .decideAlone => "'decide' cannot be combined with store/patch/next/branch"
  | .nextOrDecide => "'next' and 'decide' are mutually exclusive"
  | .rootListed root => s!"root '{root}' is not one of the flow nodes"
  | .version given => s!"Unsupported DSL version: {given}. Supported: 1.0"

/-- What is wrong with one value. -/
inductive Complaint where
  | missing
  | textExpected
  /-- Octets that are no text. -/
  | textUnreadable
  | integerExpected
  | integerUnreadable
  | integerOversized
  | integerFractional
  | numberInfinite
  | notPositive
  | truthExpected
  | truthUnreadable
  | listExpected
  | listEmpty
  | recordExpected
  | modelExpected (model : Model)
  /-- A record of one of several kinds was expected. -/
  | fieldsExpected
  | tagMissing
  | tagUnknown (tag : String) (known : List String)
  | levelUnknown
  | rule (broken : Rule)
  deriving DecidableEq, Repr

def Complaint.message : Complaint → String
  | .missing => "Field required"
  | .textExpected => "Input should be a valid string"
  | .textUnreadable =>
    "Input should be a valid string, unable to parse raw data as a unicode string"
  | .integerExpected => "Input should be a valid integer"
  | .integerUnreadable =>
    "Input should be a valid integer, unable to parse string as an integer"
  | .integerOversized => "Unable to parse input string as an integer, exceeded maximum size"
  | .integerFractional => "Input should be a valid integer, got a number with a fractional part"
  | .numberInfinite => "Input should be a finite number"
  | .notPositive => "Input should be greater than 0"
  | .truthExpected => "Input should be a valid boolean"
  | .truthUnreadable => "Input should be a valid boolean, unable to interpret input"
  | .listExpected => "Input should be a valid list"
  | .listEmpty => "List should have at least 1 item after validation, not 0"
  | .recordExpected => "Input should be a valid dictionary"
  | .modelExpected model => "Input should be a valid dictionary or instance of " ++ model.name
  | .fieldsExpected => "Input should be a valid dictionary or object to extract fields from"
  | .tagMissing => "Unable to extract tag using discriminator 'kind'"
  | .tagUnknown tag known =>
    s!"Input tag '{tag}' found using 'kind' does not match any of the expected tags: "
      ++ ", ".intercalate (known.map fun k => s!"'{k}'")
  | .levelUnknown => "Input should be 'DEBUG', 'INFO', 'WARNING' or 'ERROR'"
  | .rule broken => "Value error, " ++ broken.message

/-- A step on the way into a value. -/
inductive Step where
  | field (name : String)
  | index (n : Int)
  deriving DecidableEq, Repr

structure Issue where
  /-- The way from the whole value to the place. -/
  place : List Step
  complaint : Complaint
  deriving DecidableEq, Repr

def Step.text : Step → String
  | .field name => name
  | .index n => toString n

/-- An issue over two lines: its place, unless it is about the whole, and the
    complaint. -/
def Issue.text (i : Issue) : String :=
  let place := ".".intercalate (i.place.map Step.text)
  (if place.isEmpty then "" else place ++ "\n") ++ "  " ++ i.complaint.message

/-- The issues of a model, after their number. -/
def Issue.listing (m : Model) (found : List Issue) : String :=
  let count := toString found.length ++ " validation error" ++ if found.length = 1 then "" else "s"
  "\n".intercalate ((count ++ " for " ++ m.name) :: found.map Issue.text)

/-- A result, or what stands in its way. -/
inductive Checked (α : Type) where
  | ok (result : α)
  | issues (found : List Issue)

namespace Checked

variable {α β : Type}

/-- A complaint about the whole value. -/
def fail (c : Complaint) : Checked α :=
  .issues [⟨[], c⟩]

def map (f : α → β) : Checked α → Checked β
  | .ok x => .ok (f x)
  | .issues l => .issues l

/-- Applies a result to a result, or gathers the issues of both. -/
def apply (f : Checked (α → β)) (x : Checked α) : Checked β :=
  match f, x with
  | .ok f, .ok x => .ok (f x)
  | .ok _, .issues l => .issues l
  | .issues l, .ok _ => .issues l
  | .issues l, .issues m => .issues (l ++ m)

/-- Goes on with a result; issues end it. -/
def bind (x : Checked α) (f : α → Checked β) : Checked β :=
  match x with
  | .ok x => f x
  | .issues l => .issues l

instance : Functor Checked := ⟨map, fun x => map (fun _ => x)⟩
instance : Pure Checked := ⟨ok⟩
instance : Seq Checked := ⟨fun f x => apply f (x ())⟩

/-- Places the issues one step further in. -/
def inside (s : Step) : Checked α → Checked α
  | .ok x => .ok x
  | .issues l => .issues (l.map fun i => { i with place := s :: i.place })

/-- Checks all items and gathers the issues of all. -/
def each (f : α → Checked β) : List α → Checked (List β)
  | [] => .ok []
  | x :: xs => List.cons <$> f x <*> each f xs

end Checked

end Parley.Config

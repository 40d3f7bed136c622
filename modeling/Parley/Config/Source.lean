import Parley.Config.Reading
import Parley.Files
import Parley.Yaml.Document

/-!
# Where configurations come from

A configuration is written in one YAML file or in several. In a folder, the file
`nestflow.yaml` is the whole configuration; without it, the configuration is put
together from all files whose names end in `.yaml`, in the order of their names.

Of several files, the sections `nodes`, `flows` and `settings` are merged entry
by entry, where later files overwrite earlier ones, and a section that is no
record counts for nothing; any other field is that of the last file that has it
(`combine`).

The loader works with any way of reading a text as a document (`documentWith`), and
with YAML in `load`.
-/

namespace Parley.Config

/-- Why there is no configuration at a path. -/
inductive SourceFault where
  | missing (path : Path)
  /-- A folder without configuration files. -/
  | noFiles (folder : Path)
  /-- A folder stands where a file is read. -/
  | isFolder
  | refused (cause : Yaml.Refusal)
  /-- One of several files holds something other than a record. -/
  | notARecord
  /-- The document describes no configuration. -/
  | invalid (found : List Issue)

/-- The wording of the faults that are reported in words. What is wrong with a document is worded
    where the document is at hand. -/
def SourceFault.message? : SourceFault → Option String
  | .missing path => some ("Config file not found: " ++ path.text)
  | .noFiles folder => some ("No config files found in " ++ folder.text)
  | .refused cause => cause.message?
  | .isFolder | .notARecord | .invalid _ => none

/-- The sections that are merged entry by entry. -/
def mergedSections : List String := ["nodes", "flows", "settings"]

def isMergedSection (key : Value) : Bool :=
  mergedSections.any fun name => key.sameKey (.text name)

/-- Merges one section of a file into the same section of those before. -/
def mergeSection (chunk whole : Mapping) (name : String) : Mapping :=
  match Mapping.find? chunk (.text name) with
  | some (.record entries) =>
    let before : Mapping := match Mapping.get whole name with
      | .record es => es
      | _ => []
    whole.insert (.text name) (.record (before.merge entries))
  | _ => whole

/-- Adds a file to those before. -/
def combine (whole chunk : Mapping) : Mapping :=
  let sections := mergedSections.foldl (mergeSection chunk) whole
  sections.merge (chunk.filter fun e => !isMergedSection e.1)

/-- The sections of no files. -/
def noSections : Mapping :=
  mergedSections.map fun name => (.text name, .record [])

/-- What a document gives of a configuration; one without content gives an empty record. -/
def given (v : Value) : Value :=
  if v.isTruthy then v else .record []

/-- The configuration that a document describes. -/
def ofDocument (v : Value) : Except SourceFault FlowFile :=
  match ofValue (given v) with
  | .ok c => .ok c
  | .issues found => .error (.invalid found)

/-- Adds the document of a file to those before; one without content adds
    nothing. -/
def addDocument (whole : Mapping) (v : Value) : Except SourceFault Mapping :=
  if v.isTruthy then
    match v with
    | .record chunk => .ok (combine whole chunk)
    | _ => .error .notARecord
  else .ok whole

/-- A way of reading a text as a document, which may be empty. -/
abbrev Reader := String → Except Yaml.Refusal (Option Value)

/-- The value of the document in a file. -/
def readFileWith (read : Reader) (fs : Files) (path : Path) : Except SourceFault Value :=
  match fs.find? path with
  | some (.file content) =>
    match read content with
    | .ok v => .ok (v.getD .null)
    | .error cause => .error (.refused cause)
  | some .folder => .error .isFolder
  | none => .error (.missing path)

/-- The name of the file that is a folder's whole configuration. -/
def masterFile : String := "nestflow.yaml"

/-- The files that a folder's configuration is put together from. -/
def partFiles (fs : Files) (folder : Path) : List Path :=
  ((fs.names folder).filter fun name => name.endsWith ".yaml").map folder.child

/-- The value of the document at a path, put together if it is in several files. -/
def documentWith (read : Reader) (fs : Files) (path : Path) : Except SourceFault Value := do
  match fs.find? path with
  | some .folder =>
    let master := path.child masterFile
    if (fs.find? master).isSome then readFileWith read fs master
    else
      let files := partFiles fs path
      if files.isEmpty then throw (.noFiles path)
      let whole ← files.foldlM
        (fun whole file => do addDocument whole (← readFileWith read fs file)) noSections
      pure (.record whole)
  | _ => readFileWith read fs path

/-- The configuration at a path. -/
def loadWith (read : Reader) (fs : Files) (path : Path) : Except SourceFault FlowFile := do
  ofDocument (← documentWith read fs path)

/-! ### YAML -/

/-- The value of the YAML document in a file. -/
def readFile : Files → Path → Except SourceFault Value :=
  readFileWith Yaml.read

/-- The configuration at a path, written in YAML. -/
def load : Files → Path → Except SourceFault FlowFile :=
  loadWith Yaml.read

end Parley.Config

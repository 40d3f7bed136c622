import Parley.Proofs.Config.Acceptance
import Parley.Proofs.Config.Folder
import Parley.Proofs.Console.Speaking
import Parley.Proofs.Terminal.Markup

/-!
# Checking a file

What a check comes to depends on the services that the program uses: on how the text is read, how it
is worded what is wrong with a document, and what the screen can draw. Pages are printed one after
the other up to the first that cannot be drawn, which breaks the program down (`Outcome.Prints`).

* `Config.documentWith_of_holds`: a path that holds a text has the document of the text, if any;
* `printsCheck_check`: a check prints the defects of the configuration, or the fault of its
  compilation, or the overview;
* `validation_of_text`: what a check comes to for every text and any services. What is wrong with a
  value or with the configuration is reported; that a text is no document, or that its document
  cannot be merged, is not.
-/

namespace Parley.Config

variable {read : Reader} {fs : Files} {path : Path} {content : String} {merged : Bool}

/-! ### The text at a path -/

/-- The text is the content of the file at the path, or of the one file that the folder there is
    read from; without a master file it is merged with what comes before it. -/
inductive Holds (fs : Files) (path : Path) (content : String) : (merged : Bool) → Prop
  | file : fs.find? path = some (.file content) → Holds fs path content false
  | master : fs.find? path = some .folder →
      fs.find? (path.child masterFile) = some (.file content) → Holds fs path content false
  | part {name : String} : fs.find? path = some .folder →
      fs.find? (path.child masterFile) = none → partNames fs path = [name] →
      fs.find? (path.child name) = some (.file content) → Holds fs path content true

/-- The document of such a text. -/
def documentOf (read : Reader) (merged : Bool) (content : String) : Except SourceFault Value :=
  match read content with
  | .error cause => .error (.refused cause)
  | .ok v =>
    if merged then Value.record <$> addDocument noSections (v.getD .null) else .ok (v.getD .null)

theorem readFileWith_of_file (h : fs.find? path = some (.file content)) :
    readFileWith read fs path = ((read content).map (·.getD .null)).mapError .refused := by
  rw [readFileWith, h]
  dsimp only
  cases read content <;> rfl

theorem documentWith_of_holds (h : Holds fs path content merged) :
    documentWith read fs path = documentOf read merged content := by
  cases h with
  | file hfile =>
    rw [documentWith_of_ne_folder (by simp [hfile]), readFileWith_of_file hfile, documentOf]
    cases read content <;> rfl
  | master hfolder hfile =>
    rw [documentWith_of_master hfolder (by simp [hfile]), readFileWith_of_file hfile, documentOf]
    cases read content <;> rfl
  | part hfolder hmaster hnames hfile =>
    rw [documentWith_of_parts hfolder hmaster (by simp [hnames]), hnames, documentOf]
    simp only [List.map_cons, List.map_nil, List.foldlM_cons, List.foldlM_nil,
      readFileWith_of_file hfile, if_true, bind_pure]
    cases read content <;> rfl

/-- To a merge only records can be added, and what counts as no content. -/
def IsMergeable (v : Value) : Prop :=
  v.isTruthy = true → isRecord v = true

theorem addDocument_of_not_isMergeable {v : Value} (whole : Mapping) (h : ¬IsMergeable v) :
    addDocument whole v = .error .notARecord := by
  obtain ⟨htruthy, hrecord⟩ := Classical.not_imp.1 h
  unfold addDocument
  rw [if_pos htruthy]
  split
  · exact absurd rfl hrecord
  · rfl

theorem exists_addDocument {v : Value} (whole : Mapping) (h : IsMergeable v) :
    ∃ m, addDocument whole v = .ok m := by
  unfold addDocument
  split
  · rename_i htruthy
    obtain ⟨es, rfl⟩ := isRecord_iff.1 (h htruthy)
    exact ⟨_, rfl⟩
  · exact ⟨_, rfl⟩

theorem documentOf_of_refused {cause : Yaml.Refusal} (h : read content = .error cause) :
    documentOf read merged content = .error (.refused cause) := by
  rw [documentOf, h]

theorem documentOf_of_not_isMergeable {v : Option Value} (h : read content = .ok v)
    (hv : ¬IsMergeable (v.getD .null)) : documentOf read true content = .error .notARecord := by
  simp only [documentOf, h, if_true, addDocument_of_not_isMergeable _ hv]
  rfl

/-- A text that is read has a document, unless it would have to be merged and cannot. -/
theorem exists_documentOf {v : Option Value} (h : read content = .ok v)
    (hmergeable : merged = true → IsMergeable (v.getD .null)) :
    ∃ document, documentOf read merged content = .ok document := by
  rw [documentOf, h]
  cases merged with
  | false => exact ⟨_, rfl⟩
  | true =>
    obtain ⟨m, hm⟩ := exists_addDocument noSections (hmergeable rfl)
    simp only [if_true, hm]
    exact ⟨_, rfl⟩

/-- The text describes the configuration. -/
def Describes (read : Reader) (merged : Bool) (content : String) (c : FlowFile) : Prop :=
  ∃ document, documentOf read merged content = .ok document ∧ ofValue (given document) = .ok c

end Parley.Config

namespace Parley.Console

open Terminal Markup

/-! ### Pages -/

/-- The pages are printed one after the other, and the program ends with the exit code. If one of
    them cannot be drawn, it breaks down after those before. -/
structure Outcome.Prints (o : Outcome) (exitCode : Nat) (pages : List (Except Misuse (List Char))) :
    Prop where
  of_drawn : ∀ css : List (List Char), pages = css.map .ok → o = ⟨css.flatten, exitCode, none⟩
  of_undrawn : ∀ (css : List (List Char)) (cause : Misuse) (rest : List _),
    pages = css.map .ok ++ .error cause :: rest →
    o = ⟨css.flatten, 1, some (.fault (.misuse cause))⟩

variable {screen : Screen} {o : Outcome} {exitCode : Nat}
  {pages : List (Except Misuse (List Char))}

/-- Either all pages can be drawn, or one of them is the first that cannot. -/
theorem drawn_or_undrawn (pages : List (Except Misuse (List Char))) :
    (∃ css : List (List Char), pages = css.map .ok) ∨
      ∃ (css : List (List Char)) (cause : Misuse) (rest : List _),
        pages = css.map .ok ++ .error cause :: rest := by
  induction pages with
  | nil => exact .inl ⟨[], rfl⟩
  | cons page pages ih =>
    cases page with
    | error cause => exact .inr ⟨[], cause, pages, rfl⟩
    | ok cs =>
      rcases ih with ⟨css, rfl⟩ | ⟨css, cause, rest, rfl⟩
      · exact .inl ⟨cs :: css, rfl⟩
      · exact .inr ⟨cs :: css, cause, rest, rfl⟩

theorem prints_ofPages (exitCode : Nat) (pages : List (Except Misuse (List Char))) :
    (Outcome.ofPages exitCode pages).Prints exitCode pages where
  of_drawn css h := by
    subst h
    induction css with
    | nil => rfl
    | cons cs css ih => rw [List.map_cons, Outcome.ofPages, ih, List.flatten_cons]
  of_undrawn css cause rest h := by
    subst h
    induction css with
    | nil => rfl
    | cons cs css ih => rw [List.map_cons, List.cons_append, Outcome.ofPages, ih, List.flatten_cons]

theorem Outcome.Prints.exitCode_cases (h : o.Prints exitCode pages) :
    o.breakdown = none ∧ o.exitCode = exitCode ∨ o.breakdown ≠ none ∧ o.exitCode = 1 := by
  rcases drawn_or_undrawn pages with ⟨css, hpages⟩ | ⟨css, cause, rest, hpages⟩
  · rw [h.of_drawn css hpages]
    exact .inl ⟨rfl, rfl⟩
  · rw [h.of_undrawn css cause rest hpages]
    exact .inr ⟨nofun, rfl⟩

/-- A message is reported in a panel, marked up. -/
abbrev Outcome.Reports (o : Outcome) (screen : Screen) (message : String) : Prop :=
  o.Prints 1 [screen.panel "Error" ("[red]" ++ message ++ "[/]").toList]

theorem reports_report (screen : Screen) (message : String) :
    (Outcome.report screen message).Reports screen message :=
  prints_ofPages 1 _

theorem Outcome.Reports.exitCode_eq {message : String} (h : o.Reports screen message) :
    o.exitCode = 1 := by
  rcases h.exitCode_cases with h | h <;> exact h.2

/-! ### What a check prints -/

open Config (FlowFile)

/-- What a check of a configuration prints: its defects, one on each page, or the fault of its
    compilation, in a panel, or the overview of its blueprint. -/
structure Outcome.PrintsCheck (o : Outcome) (screen : Screen) (c : FlowFile)
    (handlers : Handlers) : Prop where
  of_defects : c.defects ≠ [] →
    o.Prints 1 (c.defects.map fun d => screen.line (defectText d).toList)
  of_fault : ∀ fault, c.defects = [] → c.compile handlers = .error (.configuration fault) →
    o.Reports screen fault.message
  of_blueprint : ∀ b, c.compile handlers = .ok b →
    o.Prints 0 [screen.table "Flows" overviewHeadings (overview b),
      screen.line (countsText c).toList]

theorem printsCheck_check (screen : Screen) (c : FlowFile) (handlers : Handlers) :
    (check screen c handlers).PrintsCheck screen c handlers := by
  refine ⟨fun hd => ?_, fun fault hd hfault => ?_, fun b hb => ?_⟩
  · rw [check, if_pos (by simpa using hd)]
    exact prints_ofPages 1 _
  · rw [check, if_neg (by simpa using hd), hfault]
    exact reports_report screen fault.message
  · have hd := (FlowFile.compile_eq_ok_iff.1 hb).1
    rw [check, if_neg (by simpa using hd), hb]
    exact prints_ofPages 0 _

/-- Whatever a check prints, the program ends with 0 if the configuration compiles, unless it breaks
    down, and else with 1. -/
theorem Outcome.PrintsCheck.exitCode_cases {c : FlowFile} {handlers : Handlers}
    (h : o.PrintsCheck screen c handlers) :
    o.exitCode = 0 ∧ (∃ b, c.compile handlers = .ok b) ∧ o.breakdown = none ∨
      o.exitCode = 1 ∧ ¬((∃ b, c.compile handlers = .ok b) ∧ o.breakdown = none) := by
  cases hcompile : c.compile handlers with
  | ok b =>
    rcases (h.of_blueprint b hcompile).exitCode_cases with ⟨hnone, hcode⟩ | ⟨hsome, hcode⟩
    · exact .inl ⟨hcode, ⟨b, rfl⟩, hnone⟩
    · exact .inr ⟨hcode, fun hand => hsome hand.2⟩
  | error cause =>
    refine .inr ⟨?_, fun hand => nomatch hand.1⟩
    by_cases hd : c.defects = []
    · obtain ⟨fault, rfl⟩ := c.blames_compile handlers cause hcompile
      exact (h.of_fault fault hd hcompile).exitCode_eq
    · rcases (h.of_defects hd).exitCode_cases with hcode | hcode <;> exact hcode.2

/-! ### What a text comes to -/

open Config (Holds documentOf given IsMergeable Describes)

variable {s : Services} {fs : Files} {path content : String} {merged : Bool}

theorem loadFlow_eq (h : Holds fs (Path.ofString path) content merged) :
    loadFlow s fs path none =
      match documentOf s.read merged content with
      | .error cause => .error (.ofSourceFault s.screen cause)
      | .ok document =>
        match Config.ofValue (given document) with
        | .ok c => .ok (c, .initial)
        | .issues found => .error (.report s.screen (s.listing (given document) found)) := by
  rw [loadFlow, handlersOf, Config.documentWith_of_holds h]
  cases documentOf s.read merged content with
  | error cause => rfl
  | ok document => cases Config.ofValue (given document) <;> rfl

theorem validation_eq (h : Holds fs (Path.ofString path) content merged) :
    validation s fs path none =
      match documentOf s.read merged content with
      | .error cause => .ofSourceFault s.screen cause
      | .ok document =>
        match Config.ofValue (given document) with
        | .ok c => check s.screen c .initial
        | .issues found => .report s.screen (s.listing (given document) found) := by
  rw [validation, loadFlow_eq h]
  cases documentOf s.read merged content with
  | error cause => rfl
  | ok document =>
    dsimp only
    cases Config.ofValue (given document) <;> rfl

/-- What has a wording is reported, and everything else breaks the program down. -/
theorem ofSourceFault_cases (screen : Screen) (cause : Config.SourceFault) :
    (∃ message, cause.message? = some message ∧
      (Outcome.ofSourceFault screen cause).Reports screen message) ∨
    cause.message? = none ∧ Outcome.ofSourceFault screen cause = .broken (.source cause) := by
  unfold Outcome.ofSourceFault
  cases cause.message? with
  | some message => exact .inl ⟨message, rfl, reports_report screen message⟩
  | none => exact .inr ⟨rfl, rfl⟩

/-- The program ends with 0 for a well-formed configuration only, and then unless the overview
    cannot be drawn. -/
theorem exitCode_validation (h : Holds fs (Path.ofString path) content merged) :
    (validation s fs path none).exitCode = 0 ∧
        (∃ c, Describes s.read merged content c ∧ c.IsWellFormed .initial) ∧
        (validation s fs path none).breakdown = none ∨
      (validation s fs path none).exitCode = 1 ∧
        ¬((∃ c, Describes s.read merged content c ∧ c.IsWellFormed .initial) ∧
          (validation s fs path none).breakdown = none) := by
  rw [validation_eq h]
  cases hdocument : documentOf s.read merged content with
  | error cause =>
    refine .inr ⟨?_, ?_⟩
    · rcases ofSourceFault_cases s.screen cause with ⟨message, -, hreports⟩ | ⟨-, hbroken⟩
      · exact hreports.exitCode_eq
      · exact congrArg Outcome.exitCode hbroken
    · rintro ⟨⟨c, ⟨document, hok, -⟩, -⟩, -⟩
      cases hdocument.symm.trans hok
  | ok document =>
    have hdescribes {c : FlowFile} : Describes s.read merged content c ↔
        Config.ofValue (given document) = .ok c :=
      ⟨fun ⟨_, hok, hc⟩ => Except.ok.inj (hdocument.symm.trans hok) ▸ hc,
        fun hc => ⟨document, hdocument, hc⟩⟩
    simp only [hdescribes]
    cases hvalue : Config.ofValue (given document) with
    | issues found =>
      refine .inr ⟨(reports_report _ _).exitCode_eq, ?_⟩
      rintro ⟨⟨c, hc, -⟩, -⟩
      cases hc
    | ok c =>
      have hwell := FlowFile.exists_compile_iff (Config.isRegular_of_ofValue hvalue) .initial
      rcases (printsCheck_check s.screen c .initial).exitCode_cases with
        ⟨hcode, hc, hnone⟩ | ⟨hcode, hno⟩
      · exact .inl ⟨hcode, ⟨c, rfl, hwell.1 hc⟩, hnone⟩
      · refine .inr ⟨hcode, ?_⟩
        rintro ⟨⟨_, ⟨⟩, hw⟩, hnone⟩
        exact hno ⟨hwell.2 hw, hnone⟩

/-- What comes of checking any text with any services, in a file of its own or as the only file of a
    folder:

    * the exit code is 0 or 1, and it is 1 if the program breaks down. It is 0 only for a
      well-formed configuration, and then unless the overview cannot be drawn;
    * if the text is read as no document, that is reported if it has a wording, as it has where a
      scalar does not spell a value of its kind. Else the program breaks down with it (documents to
      which no value is are left aside);
    * if the document would have to be merged and cannot be, the program breaks down;
    * any other document is no configuration, which is reported, or one of which the check prints
      what is wrong with it, or its overview;
    * whatever is printed so is marked up, and if the screen cannot draw it, the program breaks down
      with the cause (`Outcome.Prints`). -/
theorem validation_of_text (s : Services) (h : Holds fs (Path.ofString path) content merged) :
    let o := validation s fs path none
    (o.exitCode = 0 ∨ o.exitCode = 1) ∧
    (o.breakdown ≠ none → o.exitCode = 1) ∧
    ((∀ cause, s.read content = .error cause → cause.isUnrepresented = false) →
      (o.exitCode = 0 ↔ (∃ c, Describes s.read merged content c ∧ c.IsWellFormed .initial) ∧
        o.breakdown = none)) ∧
    (∀ cause, s.read content = .error cause → cause.isUnrepresented = false →
      (∀ message, cause.message? = some message → o.Reports s.screen message) ∧
      (cause.message? = none → o = .broken (.source (.refused cause)))) ∧
    ∀ v, s.read content = .ok v →
      (merged = true → ¬IsMergeable (v.getD .null) → o = .broken (.source .notARecord)) ∧
      ((merged = true → IsMergeable (v.getD .null)) →
        ∃ document, documentOf s.read merged content = .ok document ∧
          ((∃ found, Config.ofValue (given document) = .issues found ∧
              o.Reports s.screen (s.listing (given document) found)) ∨
            ∃ c, Config.ofValue (given document) = .ok c ∧
              o.PrintsCheck s.screen c .initial)) := by
  intro o
  have ho : o = _ := validation_eq h
  have hexit := exitCode_validation (s := s) h
  refine ⟨hexit.imp (·.1) (·.1), fun hsome => ?_, fun _ => ?_, fun cause hread _ => ?_,
    fun v hread => ⟨fun hm hv => ?_, fun hv => ?_⟩⟩
  · -- The exit code.
    rcases hexit with ⟨-, -, hnone⟩ | ⟨hcode, -⟩
    · exact absurd hnone hsome
    · exact hcode
  · rcases hexit with ⟨hcode, hc⟩ | ⟨hcode, hc⟩
    · exact iff_of_true hcode hc
    · exact iff_of_false (fun h0 => by cases hcode.symm.trans h0) hc
  · -- A text that is no document.
    rw [ho, Config.documentOf_of_refused hread]
    rcases ofSourceFault_cases s.screen (.refused cause) with
      ⟨message, hmessage, hreports⟩ | ⟨hnone, hbroken⟩
    · refine ⟨fun message' h' => ?_, fun h' => ?_⟩
      · exact Option.some.inj (hmessage.symm.trans h') ▸ hreports
      · cases hmessage.symm.trans h'
    · refine ⟨fun message h' => ?_, fun _ => hbroken⟩
      cases hnone.symm.trans h'
  · -- A document, which may have to be merged.
    subst hm
    rw [ho, Config.documentOf_of_not_isMergeable hread hv]
    rfl
  · obtain ⟨document, hdocument⟩ := Config.exists_documentOf hread hv
    refine ⟨document, hdocument, ?_⟩
    rw [ho, hdocument]
    dsimp only
    cases hvalue : Config.ofValue (given document) with
    | issues found => exact .inl ⟨found, rfl, reports_report s.screen _⟩
    | ok c => exact .inr ⟨c, rfl, printsCheck_check s.screen c .initial⟩

/-! Three files that the program breaks down with: a list that is not closed, a root with a closing
    tag in its name, and a list where a record would have to be merged. -/

def unclosed : String := "bad: ["

def styled : String := "root: a[/b]"

def listed : String := "[a]"

def faultyFiles : Files :=
  ⟨[], [(["unclosed.yaml"], .file unclosed), (["styled.yaml"], .file styled),
    (["listed"], .folder), (["listed", "a.yaml"], .file listed)]⟩

theorem holds_unclosed : Holds faultyFiles (Path.ofString "unclosed.yaml") unclosed false :=
  .file (by decide +kernel)

theorem read_unclosed : Yaml.read unclosed = .error .grammar := by
  have htokens : (Yaml.Token.stream unclosed).tokens = [.blockMappingStart, .key,
      .scalar "bad" true, .value, .flowSequenceStart, .streamEnd] := by decide +kernel
  exact Yaml.read_error_of_tokens (by decide) htokens (by decide +kernel) rfl

theorem holds_styled : Holds faultyFiles (Path.ofString "styled.yaml") styled false :=
  .file (by decide +kernel)

theorem read_styled : Yaml.read styled =
    .ok (some (.record [(.text "root", .text "a[/b]")])) := by
  have htokens : (Yaml.Token.stream styled).tokens = [.blockMappingStart, .key,
      .scalar "root" true, .value, .scalar "a[/b]" true, .blockEnd, .streamEnd] := by
    decide +kernel
  exact Yaml.read_of_tokens (by decide) htokens (by decide +kernel) rfl
    (Yaml.Node.value_mapping (.cons (Yaml.Node.isEntry_text Yaml.Node.value_text) .nil))

/-- What the second file describes. -/
def styledFlow : FlowFile :=
  ⟨Config.currentVersion, "a[/b]", Config.defaultSettings, [], []⟩

theorem documentOf_styled : documentOf Yaml.read false styled =
    .ok (.record [(.text "root", .text "a[/b]")]) := by
  rw [documentOf, read_styled]
  rfl

theorem defects_styledFlow : styledFlow.defects = [.rootUndefined "a[/b]"] := by
  rw [FlowFile.defects, FlowFile.ambiguous_eq_nil rfl]
  rfl

/-- Its only defect has a closing tag without anything to close. -/
theorem line_styled (h : screen.ReadsMarkup) :
    screen.line (defectText (.rootUndefined "a[/b]")).toList = .error .markup := by
  have hwritten : (defectText (.rootUndefined "a[/b]")).toList =
      written [.opening "red".toList, .words "✗".toList, .closing, .words " Root flow 'a".toList] ++
        (bracketed ['/', 'b'] ++ "' is not defined under 'flows'".toList) := by
    decide +kernel
  rw [hwritten]
  exact h.line_unmatched _ ['b'] _ (by decide +kernel) rfl (by decide) (by decide)

theorem holds_listed : Holds faultyFiles (Path.ofString "listed") listed true :=
  .part (by decide +kernel) (by decide +kernel)
    (by decide +kernel : Config.partNames _ _ = ["a.yaml"]) (by decide +kernel)

theorem read_listed : Yaml.read listed = .ok (some (.list [.text "a"])) := by
  have htokens : (Yaml.Token.stream listed).tokens = [.flowSequenceStart, .scalar "a" true,
      .flowSequenceEnd, .streamEnd] := by decide +kernel
  exact Yaml.read_of_tokens (by decide) htokens (by decide +kernel) rfl Config.value_listed

/-- The three files are not reported. -/
theorem faulty_files_break_down :
    validation .standard faultyFiles "unclosed.yaml" none =
      .broken (.source (.refused .grammar)) ∧
    validation .standard faultyFiles "styled.yaml" none =
      .broken (.fault (.misuse .markup)) ∧
    validation .standard faultyFiles "listed" none = .broken (.source .notARecord) := by
  obtain ⟨-, -, -, hunclosed, -⟩ := validation_of_text .standard holds_unclosed
  obtain ⟨-, -, -, -, hstyled⟩ := validation_of_text .standard holds_styled
  obtain ⟨-, -, -, -, hlisted⟩ := validation_of_text .standard holds_listed
  refine ⟨(hunclosed .grammar read_unclosed rfl).2 rfl, ?_, ?_⟩
  · obtain ⟨document, hdocument, hchecked⟩ := (hstyled _ read_styled).2 (by simp)
    cases documentOf_styled.symm.trans hdocument
    have hflow : Config.ofValue (given (.record [(.text "root", .text "a[/b]")])) =
        .ok styledFlow := rfl
    rcases hchecked with ⟨found, hfound, -⟩ | ⟨c, hc, hprints⟩
    · cases hflow.symm.trans hfound
    · cases hflow.symm.trans hc
      have hprints := hprints.of_defects (by rw [defects_styledFlow]; simp)
      rw [defects_styledFlow] at hprints
      refine hprints.of_undrawn [] .markup [] ?_
      rw [List.map_singleton]
      exact congrArg (List.cons · []) (line_styled (Screen.readsMarkup_ofWidth consoleWidth))
  · refine (hlisted _ read_listed).1 rfl fun h => ?_
    cases h rfl

/-- A check of the list that is not closed ends in its refusal, and nothing is printed. -/
theorem unclosed_list_is_not_reported :
    Holds faultyFiles (Path.ofString "unclosed.yaml") unclosed false ∧
    run .standard faultyFiles ["validate", "unclosed.yaml"] [] =
      ⟨[], 1, some (.source (.refused .grammar))⟩ := by
  have hcommand : Command.ofArguments ["validate", "unclosed.yaml"] =
      some (.validate "unclosed.yaml" none) := by decide +kernel
  refine ⟨holds_unclosed, ?_⟩
  rw [run, hcommand]
  show validation .standard faultyFiles "unclosed.yaml" none = _
  have hdocument : documentOf Services.standard.read false unclosed = .error (.refused .grammar) :=
    Config.documentOf_of_refused read_unclosed
  rw [validation_eq holds_unclosed, hdocument]
  rfl

end Parley.Console

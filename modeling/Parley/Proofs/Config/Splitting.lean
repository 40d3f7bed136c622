import Parley.Proofs.Config.Source
import Parley.Proofs.Config.Unordered

/-!
# Configurations that are split over files

A configuration may be written in one file, or its entries may be distributed over the files of a
folder. Merged file by file, these have the same sections, in another order, and where several files
have an entry with one key, the one of the last file is left (`Gathers`). So what is read is the
same (`splitting_keeps_configuration`).

There is one exception: a section may have a name twice, as a text and as octets. These are two keys
and neither entry overwrites the other, but they are read as one name, and then it is the order of
the entries that counts, which does depend on the files (`splitting_by_spelling`).
-/

namespace Parley.Config

open Parley.Mapping

variable {fs fs' : Files} {folder file : Path} {m : Mapping} {docs : List Mapping} {name : String}

/-- Of the entries that several documents have in their sections and outside them, the mapping has
    those that no later document has the key of. -/
structure Gathers (m : Mapping) (docs : List Mapping) : Prop where
  section_iff : ∀ name ∈ mergedSections, ∀ e,
    e ∈ sectionOf m name ↔ IsLast (docs.flatMap (sectionOf · name)) e
  other_iff : ∀ e, e ∈ others m ↔ IsLast (docs.flatMap others) e

/-- Each entry that the mapping has in its sections and outside them is in exactly one document. -/
structure Distributes (m : Mapping) (docs : List Mapping) : Prop where
  section_perm : ∀ name ∈ mergedSections, (docs.flatMap (sectionOf · name)).Perm (sectionOf m name)
  others_perm : (docs.flatMap others).Perm (others m)

/-- Where no two documents have an entry with the same key, there is nothing to overwrite. -/
theorem Distributes.gathers (h : Distributes m docs) (hm : m.IsDistinct)
    (hsections : ∀ name, (sectionOf m name).IsDistinct) : Gathers m docs where
  section_iff name hname e := by
    have hperm := h.section_perm name hname
    rw [((hsections name).of_perm hperm.symm).isLast_iff, hperm.mem_iff]
  other_iff e := by
    rw [((isDistinct_others hm).of_perm h.others_perm.symm).isLast_iff, h.others_perm.mem_iff]

/-! ### What is read of the sections -/

/-- A section after a merge, and one that has the entries which are not overwritten. -/
theorem covers_of_isLast {l es : Mapping} (h : ∀ e, e ∈ es ↔ IsLast l e) :
    Covers (merge [] l) es ∧ Covers es (merge [] l) := by
  have htext : ∀ {e e' : Value × Value}, Alike e e' → text e.1 = text e'.1 := by
    rintro e e' ⟨-, rfl | hkey⟩
    · rfl
    · exact text_congr hkey
  constructor
  · intro e he
    obtain ⟨e', he', halike⟩ := ((h e).1 he).exists_mem_merge
    exact ⟨e', he', (htext halike).symm, halike.1.symm⟩
  · intro e he
    obtain ⟨e', hlast, halike⟩ := exists_isLast_of_mem_merge he
    exact ⟨e', (h e').2 hlast, htext halike, halike.1⟩

theorem settings_congr {es es' : Mapping}
    (h : ∀ name, Mapping.find? es (.text name) = Mapping.find? es' (.text name)) :
    settings (.record es) = settings (.record es') := by
  simp only [settings, fieldsOf, Checked.bind_ok_eq, withDefault, field?, h]

/-- The two configurations are equal as unordered mappings, but for the names of nodes and flows
    that the mapping spells twice. -/
structure SameFile (m : Mapping) (c c' : FlowFile) : Prop where
  version : c.version = c'.version
  root : c.root = c'.root
  settings : c.settings = c'.settings
  nodes : SameEntries (SpelledTwice (sectionOf m "nodes")) c.nodes c'.nodes
  flows : SameEntries (SpelledTwice (sectionOf m "flows")) c.flows c'.flows

theorem supported_agree {c c' : FlowFile} (h : SameFile m c c') :
    Checked.Agree (SameFile m) (supported c) (supported c') := by
  unfold supported
  rw [h.version]
  split
  · exact .ok h
  · exact .issues

/-- Values agree if they have the same fields outside the sections, the same settings, and nodes and
    flows that cover each other. -/
theorem ofValue_agree {m' : Mapping} (hm' : HasRecordSections m') (hm : HasRecordSections m)
    (hfield : ∀ name, name ∉ mergedSections →
      Mapping.find? m' (.text name) = Mapping.find? m (.text name))
    (hsettings : ∀ name, Mapping.find? (sectionOf m' "settings") (.text name) =
      Mapping.find? (sectionOf m "settings") (.text name))
    (hcovers : ∀ name ∈ mergedSections, Covers (sectionOf m' name) (sectionOf m name) ∧
      Covers (sectionOf m name) (sectionOf m' name))
    (hdistinct : ∀ name, (sectionOf m name).IsDistinct) :
    Checked.Agree (SameFile m) (ofValue (.record m')) (ofValue (.record m)) := by
  have hsections : ∀ {α : Type} (read : Value → Checked α), ∀ name ∈ mergedSections,
      Checked.Agree (SameEntries (SpelledTwice (sectionOf m name)))
        (recordOf read (.record (sectionOf m' name)))
        (recordOf read (.record (sectionOf m name))) := by
    intro α read name hname
    exact recordOf_agree (hcovers name hname).1 (hcovers name hname).2 (hdistinct name)
  rw [ofValue_record hm', ofValue_record hm, withDefault_congr (hfield "version" (by decide)),
    withDefault_congr (hfield "root" (by decide)), settings_congr hsettings]
  -- All fields but the nodes and flows are read from the same on both sides.
  refine Checked.Agree.bind (.seq (.seq (.seq (.seq (.map (.refl _) ?_) (.refl _)) (.refl _))
    ((hsections node "nodes" (by decide)).inside _))
    ((hsections flow "flows" (by decide)).inside _)) fun _ _ => supported_agree
  rintro version _ rfl root _ rfl settings _ rfl nodes nodes' hnodes flows flows' hflows
  exact ⟨rfl, rfl, rfl, hnodes, hflows⟩

/-- Several documents come to what a mapping holds that has gathered their entries. -/
theorem ofValue_gather (hgather : Gathers m docs) (hm : m.IsDistinct)
    (hdistinct : ∀ name, (sectionOf m name).IsDistinct) (hsections : HasRecordSections m) :
    Checked.Agree (SameFile m) (ofValue (.record (gather docs))) (ofValue (.record m)) := by
  refine ofValue_agree gather_hasRecordSections hsections (fun name hname => ?_) (fun name => ?_)
    (fun name hname => ?_) hdistinct
  · ext v
    rw [find?_gather_other (isMergedSection_text.not.2 hname), find?_reverse_text,
      ← hgather.other_iff, mem_others_text, and_iff_left hname, hm.find?_text]
  · ext v
    rw [sectionOf_gather (by decide), find?_merge]
    show (Mapping.find? _ _).or none = _ ↔ _
    rw [Option.or_none, find?_reverse_text, ← hgather.section_iff _ (by decide),
      (hdistinct "settings").find?_text]
  · rw [sectionOf_gather hname]
    exact covers_of_isLast (hgather.section_iff name hname)

/-! ### Loading -/

/-- Both are configurations, the same but for names that the mapping spells twice, or both are
    refused for what they hold. -/
inductive SameOutcome (m : Mapping) :
    Except SourceFault FlowFile → Except SourceFault FlowFile → Prop
  | ok {c c' : FlowFile} (h : SameFile m c c') : SameOutcome m (.ok c) (.ok c')
  | invalid {found found' : List Issue} :
    SameOutcome m (.error (.invalid found)) (.error (.invalid found'))

theorem SameOutcome.of_agree {m' : Mapping}
    (h : Checked.Agree (SameFile m) (ofValue (.record m')) (ofValue (.record m))) :
    SameOutcome m (ofDocument (.record m')) (ofDocument (.record m)) := by
  rw [ofDocument_record, ofDocument_record]
  generalize ofValue (.record m') = x at h
  generalize ofValue (.record m) = y at h
  cases h with
  | ok h => exact .ok h
  | issues => exact .invalid

/-- A configuration may be split over the files of a folder in any way: it is the one that a single
    file holds with all of their entries. Of entries with the same key that of the file whose name
    is the last counts, and it does not matter in which order the files are listed. -/
theorem splitting_keeps_configuration {parts : String → Mapping}
    (hfolder : fs.find? folder = some .folder)
    (hmaster : fs.find? (folder.child masterFile) = none) (hsome : partNames fs folder ≠ [])
    (hparts : ∀ name ∈ partNames fs folder, HoldsEntries fs (folder.child name) (parts name)) :
    (∀ fs' file m, HoldsEntries fs' file m → HasRecordSections m →
      Distributes m ((partNames fs folder).map parts) →
        SameOutcome m (load fs folder) (load fs' file)) ∧
    (∀ m : Mapping, m.IsDistinct → (∀ name, (sectionOf m name).IsDistinct) → HasRecordSections m →
      Gathers m ((partNames fs folder).map parts) →
        SameOutcome m (load fs folder) (ofDocument (.record m))) ∧
    (partNames fs folder).Pairwise (· < ·) ∧
    ∀ fs', fs.Reordered fs' → load fs' folder = load fs folder := by
  have hgathers : ∀ m : Mapping, m.IsDistinct → (∀ name, (sectionOf m name).IsDistinct) →
      HasRecordSections m → Gathers m ((partNames fs folder).map parts) →
        SameOutcome m (load fs folder) (ofDocument (.record m)) := by
    intro m hm hdistinct hsections hgather
    rw [load_folder hfolder hmaster hsome hparts]
    exact .of_agree (ofValue_gather hgather hm hdistinct hsections)
  refine ⟨fun fs' file m hfile hsections hsplit => ?_, hgathers,
    (Files.pairwise_names fs folder).filter _, fun fs' h => (load_reordered h folder).symm⟩
  obtain ⟨hm, hdistinct⟩ := hfile.isDistinct
  rw [load_file hfile]
  exact hgathers m hm hdistinct hsections (hsplit.gathers hm hdistinct)

/-! ### A name that is spelled in two ways -/

open Parley.Yaml.Node (isEntry_text value_mapping value_text)

/-- A node that only says where to go. -/
def goingTo (next : String) : Value := .record [(.text "next", .text next)]

/-- Two folders, each next to a file with the entries of both of its files. In the first one a
    node's name is given as octets in one file, and as a text in the other. -/
def splitFiles : Files :=
  ⟨[], [(["d"], .folder),
    (["d", "a.yaml"], .file "nodes: \x7b!!binary YQ==: \x7bnext: x\x7d\x7d"),
    (["d", "b.yaml"], .file "nodes: \x7ba: \x7bnext: y\x7d\x7d"),
    (["d.yaml"], .file "nodes: \x7ba: \x7bnext: y\x7d, !!binary YQ==: \x7bnext: x\x7d\x7d"),
    (["e"], .folder),
    (["e", "a.yaml"], .file "root: r"),
    (["e", "b.yaml"], .file "nodes: \x7ba: \x7bnext: y\x7d\x7d"),
    (["e.yaml"], .file "nodes: \x7ba: \x7bnext: y\x7d\x7d\nroot: r")]⟩

theorem value_goingTo {next : String} :
    (Yaml.Node.mapping .mapping [(.scalar .text "next", .scalar .text next)]).value =
      .ok (goingTo next) :=
  value_mapping (.cons (isEntry_text value_text) .nil)

theorem value_nodes {entries : List (Yaml.Node × Yaml.Node)} {es : Mapping}
    (h : List.Forall₂ Yaml.Node.IsEntry entries es) :
    (Yaml.Node.mapping .mapping [(.scalar .text "nodes", .mapping .mapping entries)]).value =
      .ok (.record [(.text "nodes", .record (Yaml.Node.record es))]) :=
  value_mapping (.cons (isEntry_text (value_mapping h)) .nil)

/-- The name of the node in base 64. -/
theorem isEntry_octets {next : String} : Yaml.Node.IsEntry
    (.scalar (Yaml.Tag.ofName (Yaml.Tag.stem ++ "binary")) "YQ==",
      .mapping .mapping [(.scalar .text "next", .scalar .text next)])
    (.bytes [97], goingTo next) := by
  have htag : Yaml.Tag.ofName (Yaml.Tag.stem ++ "binary") = .octets := by decide +kernel
  have hoctets : Yaml.Scalar.octets "YQ==" = .ok [97] := by decide +kernel
  rw [htag]
  refine ⟨nofun, nofun, nofun, ?_, value_goingTo⟩
  rw [Yaml.Node.value, Yaml.Scalar.value, hoctets]
  rfl

theorem read_octets : Yaml.read "nodes: \x7b!!binary YQ==: \x7bnext: x\x7d\x7d" =
    .ok (some (.record [(.text "nodes", .record [(.bytes [97], goingTo "x")])])) := by
  have htokens : (Yaml.Token.stream "nodes: \x7b!!binary YQ==: \x7bnext: x\x7d\x7d").tokens =
      [.blockMappingStart, .key, .scalar "nodes" true, .value, .flowMappingStart, .key,
        .tag (some "!!") "binary", .scalar "YQ==" true, .value, .flowMappingStart, .key,
        .scalar "next" true, .value, .scalar "x" true, .flowMappingEnd, .flowMappingEnd, .blockEnd,
        .streamEnd] := by decide +kernel
  exact Yaml.read_of_tokens (by decide) htokens (by decide +kernel) rfl
    (value_nodes (.cons isEntry_octets .nil))

theorem read_text : Yaml.read "nodes: \x7ba: \x7bnext: y\x7d\x7d" =
    .ok (some (.record [(.text "nodes", .record [(.text "a", goingTo "y")])])) := by
  have htokens : (Yaml.Token.stream "nodes: \x7ba: \x7bnext: y\x7d\x7d").tokens =
      [.blockMappingStart, .key, .scalar "nodes" true, .value, .flowMappingStart, .key,
        .scalar "a" true, .value, .flowMappingStart, .key, .scalar "next" true, .value,
        .scalar "y" true, .flowMappingEnd, .flowMappingEnd, .blockEnd, .streamEnd] := by
    decide +kernel
  exact Yaml.read_of_tokens (by decide) htokens (by decide +kernel) rfl
    (value_nodes (.cons (isEntry_text value_goingTo) .nil))

theorem read_both :
    Yaml.read "nodes: \x7ba: \x7bnext: y\x7d, !!binary YQ==: \x7bnext: x\x7d\x7d" =
    .ok (some (.record [(.text "nodes",
      .record [(.text "a", goingTo "y"), (.bytes [97], goingTo "x")])])) := by
  have htokens : (Yaml.Token.stream
      "nodes: \x7ba: \x7bnext: y\x7d, !!binary YQ==: \x7bnext: x\x7d\x7d").tokens =
      [.blockMappingStart, .key, .scalar "nodes" true, .value, .flowMappingStart, .key,
        .scalar "a" true, .value, .flowMappingStart, .key, .scalar "next" true, .value,
        .scalar "y" true, .flowMappingEnd, .flowEntry, .key, .tag (some "!!") "binary",
        .scalar "YQ==" true, .value, .flowMappingStart, .key, .scalar "next" true, .value,
        .scalar "x" true, .flowMappingEnd, .flowMappingEnd, .blockEnd, .streamEnd] := by
    decide +kernel
  exact Yaml.read_of_tokens (by decide) htokens (by decide +kernel) rfl
    (value_nodes (.cons (isEntry_text value_goingTo) (.cons isEntry_octets .nil)))

theorem read_root : Yaml.read "root: r" = .ok (some (.record [(.text "root", .text "r")])) := by
  have htokens : (Yaml.Token.stream "root: r").tokens = [.blockMappingStart, .key,
      .scalar "root" true, .value, .scalar "r" true, .blockEnd, .streamEnd] := by decide +kernel
  exact Yaml.read_of_tokens (by decide) htokens (by decide +kernel) rfl
    (value_mapping (.cons (isEntry_text value_text) .nil))

theorem read_rooted : Yaml.read "nodes: \x7ba: \x7bnext: y\x7d\x7d\nroot: r" =
    .ok (some (.record [(.text "nodes", .record [(.text "a", goingTo "y")]),
      (.text "root", .text "r")])) := by
  have htokens : (Yaml.Token.stream "nodes: \x7ba: \x7bnext: y\x7d\x7d\nroot: r").tokens =
      [.blockMappingStart, .key, .scalar "nodes" true, .value, .flowMappingStart, .key,
        .scalar "a" true, .value, .flowMappingStart, .key, .scalar "next" true, .value,
        .scalar "y" true, .flowMappingEnd, .flowMappingEnd, .key, .scalar "root" true, .value,
        .scalar "r" true, .blockEnd, .streamEnd] := by decide +kernel
  have hnode : (Yaml.Node.mapping .mapping [(.scalar .text "a",
      .mapping .mapping [(.scalar .text "next", .scalar .text "y")])]).value =
      .ok (.record [(.text "a", goingTo "y")]) :=
    value_mapping (.cons (isEntry_text value_goingTo) .nil)
  exact Yaml.read_of_tokens (by decide) htokens (by decide +kernel) rfl
    (value_mapping (.cons (isEntry_text hnode)
      (.cons (isEntry_text value_text) .nil)))

theorem splitFiles_partNames : ∀ d ∈ ["d", "e"],
    partNames splitFiles ⟨false, [d]⟩ = ["a.yaml", "b.yaml"] := by
  have hparts : ∀ d, splitFiles.place? ⟨false, [d]⟩ = some [d] →
      (splitFiles.below [d]).eraseDups = ["a.yaml", "b.yaml"] →
        partNames splitFiles ⟨false, [d]⟩ = ["a.yaml", "b.yaml"] := by
    intro d hplace hbelow
    have hsorted : (["a.yaml", "b.yaml"].mergeSort fun a b => !(b < a)) = ["a.yaml", "b.yaml"] :=
      List.mergeSort_of_pairwise (by decide)
    rw [partNames, Files.names_of_place? hplace, hbelow, hsorted]
    decide +kernel
  exact List.forall_mem_cons.2
    ⟨hparts "d" rfl rfl, List.forall_mem_singleton.2 (hparts "e" rfl rfl)⟩

/-- The files of the first folder have the entries of a file next to it, but there the node is the
    one whose name is a text, where in the file it is the one whose name is given as octets. -/
theorem splitting_by_spelling :
    let first : Mapping := [(.text "nodes", .record [(.bytes [97], goingTo "x")])]
    let second : Mapping := [(.text "nodes", .record [(.text "a", goingTo "y")])]
    let both : Mapping :=
      [(.text "nodes", .record [(.text "a", goingTo "y"), (.bytes [97], goingTo "x")])]
    partNames splitFiles ⟨false, ["d"]⟩ = ["a.yaml", "b.yaml"] ∧
    HoldsEntries splitFiles ⟨false, ["d", "a.yaml"]⟩ first ∧
    HoldsEntries splitFiles ⟨false, ["d", "b.yaml"]⟩ second ∧
    HoldsEntries splitFiles ⟨false, ["d.yaml"]⟩ both ∧
    HasRecordSections both ∧ Distributes both [first, second] ∧
    ∃ c c', load splitFiles ⟨false, ["d"]⟩ = .ok c ∧ load splitFiles ⟨false, ["d.yaml"]⟩ = .ok c' ∧
      (lookup "a" c.nodes).bind NodeConfig.next = some "y" ∧
      (lookup "a" c'.nodes).bind NodeConfig.next = some "x" := by
  intro first second both
  have hnames : partNames splitFiles ⟨false, ["d"]⟩ = ["a.yaml", "b.yaml"] :=
    splitFiles_partNames _ (by simp)
  have hfirst : HoldsEntries splitFiles ⟨false, ["d", "a.yaml"]⟩ first :=
    .inl (readFile_of_read (by decide) read_octets)
  have hsecond : HoldsEntries splitFiles ⟨false, ["d", "b.yaml"]⟩ second :=
    .inl (readFile_of_read (by decide) read_text)
  have hboth : HoldsEntries splitFiles ⟨false, ["d.yaml"]⟩ both :=
    .inl (readFile_of_read (by decide) read_both)
  have hsections : HasRecordSections both :=
    hasRecordSections_of_forall (List.forall_mem_singleton.2 fun _ => ⟨_, rfl⟩)
  have hdistributes : Distributes both [first, second] :=
    ⟨forall_mergedSections.2 ⟨.swap _ _ [], .refl [], .refl []⟩, .refl []⟩
  have hparts : ∀ name ∈ partNames splitFiles ⟨false, ["d"]⟩, HoldsEntries splitFiles
      (Path.child ⟨false, ["d"]⟩ name) (if name = "a.yaml" then first else second) := by
    rw [hnames]
    exact List.forall_mem_cons.2 ⟨hfirst, List.forall_mem_singleton.2 hsecond⟩
  refine ⟨hnames, hfirst, hsecond, hboth, hsections, hdistributes, ?_⟩
  rw [load_folder (by decide) (by decide) (by simp [hnames]) hparts, load_file hboth, hnames]
  exact ⟨_, _, rfl, rfl, rfl, rfl⟩

/-- A node in one file, and the name of the outermost flow in another one. -/
theorem splitting_of_rooted :
    let folder : Path := ⟨false, ["e"]⟩
    let parts : String → Mapping := fun name =>
      if name = "a.yaml" then [(.text "root", .text "r")]
      else [(.text "nodes", .record [(.text "a", goingTo "y")])]
    let whole : Mapping :=
      [(.text "nodes", .record [(.text "a", goingTo "y")]), (.text "root", .text "r")]
    (partNames splitFiles folder ≠ [] ∧ ∀ name ∈ partNames splitFiles folder,
      HoldsEntries splitFiles (folder.child name) (parts name)) ∧
    HoldsEntries splitFiles ⟨false, ["e.yaml"]⟩ whole ∧
    Distributes whole ((partNames splitFiles folder).map parts) ∧
    SameOutcome whole (load splitFiles folder) (load splitFiles ⟨false, ["e.yaml"]⟩) := by
  intro folder parts whole
  have hnames : partNames splitFiles folder = ["a.yaml", "b.yaml"] :=
    splitFiles_partNames _ (by simp)
  have hparts : ∀ name ∈ partNames splitFiles folder,
      HoldsEntries splitFiles (folder.child name) (parts name) := by
    rw [hnames]
    exact List.forall_mem_cons.2 ⟨.inl (readFile_of_read (by decide) read_root),
      List.forall_mem_singleton.2 (.inl (readFile_of_read (by decide) read_text))⟩
  have hwhole : HoldsEntries splitFiles ⟨false, ["e.yaml"]⟩ whole :=
    .inl (readFile_of_read (by decide) read_rooted)
  have hsections : HasRecordSections whole := by
    refine hasRecordSections_of_forall (List.forall_mem_cons.2 ⟨fun _ => ⟨_, rfl⟩, ?_⟩)
    exact List.forall_mem_singleton.2 fun h => absurd h (by decide)
  have hdistributes : Distributes whole ((partNames splitFiles folder).map parts) := by
    rw [hnames]
    exact ⟨forall_mergedSections.2 ⟨.refl _, .refl _, .refl _⟩, .refl _⟩
  have hsome : partNames splitFiles folder ≠ [] := by simp [hnames]
  exact ⟨⟨hsome, hparts⟩, hwhole, hdistributes,
    (splitting_keeps_configuration (by decide) (by decide) hsome hparts).1 splitFiles _ whole hwhole
      hsections hdistributes⟩

end Parley.Config

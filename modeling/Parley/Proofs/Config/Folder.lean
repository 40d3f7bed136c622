import Parley.Proofs.Config.Source

/-!
# A folder with one file

A file is read in two ways: on its own, as the configuration that it holds, and as the only file of
a folder, by its sections and the entries outside them. The two agree on a file whose sections are
records, where there are any. A section that is something else is dropped in the folder and nothing
is said of it, while on its own the file is refused (`folder_of_one_file`).
-/

namespace Parley.Config

open Parley.Mapping

variable {fs : Files} {folder : Path} {m : Mapping} {c : FlowFile} {name : String}

def isRecord : Value → Bool
  | .record _ => true
  | _ => false

theorem isRecord_iff {v : Value} : isRecord v ↔ ∃ es, v = .record es := by
  cases v <;> simp [isRecord]

/-- The mapping without the sections that are no records. -/
def withoutMalformed (m : Mapping) : Mapping :=
  m.filter fun e => !isMergedSection e.1 || isRecord e.2

theorem mem_withoutMalformed {v : Value} : (.text name, v) ∈ withoutMalformed m ↔
    (.text name, v) ∈ m ∧ (name ∈ mergedSections → ∃ es, v = .record es) := by
  rw [withoutMalformed, List.mem_filter, ← isMergedSection_text, ← isRecord_iff]
  cases isMergedSection (.text name) <;> simp

theorem isDistinct_withoutMalformed (h : m.IsDistinct) : (withoutMalformed m).IsDistinct :=
  h.filter _

section

variable (h : m.IsDistinct)

include h

theorem withoutMalformed_hasRecordSections : HasRecordSections (withoutMalformed m) := by
  intro s hs v hv
  rw [(isDistinct_withoutMalformed h).find?_text] at hv
  exact (mem_withoutMalformed.1 hv).2 hs

theorem sectionOf_withoutMalformed : sectionOf (withoutMalformed m) name = sectionOf m name := by
  refine sectionOf_congr fun es => ?_
  rw [(isDistinct_withoutMalformed h).find?_text, h.find?_text, mem_withoutMalformed,
    and_iff_left fun _ => ⟨es, rfl⟩]

/-- Outside the sections, the last entry of a key is the only one. -/
theorem find?_gather_single (hname : name ∉ mergedSections) :
    Mapping.find? (gather [m]) (.text name) = Mapping.find? (withoutMalformed m) (.text name) := by
  ext v
  rw [find?_gather_other (isMergedSection_text.not.2 hname), List.flatMap_singleton,
    find?_reverse_text, (isDistinct_others h).isLast_iff, mem_others_text,
    (isDistinct_withoutMalformed h).find?_text, mem_withoutMalformed]
  simp [hname]

theorem withoutMalformed_of_hasRecordSections (hsections : HasRecordSections m) :
    withoutMalformed m = m := by
  refine List.filter_eq_self.2 fun e he => ?_
  rcases he' : isMergedSection e.1 with _ | _
  · rfl
  · obtain ⟨name, hname, hkey⟩ := List.any_eq_true.1 he'
    have hmem : (.text name, e.2) ∈ m := by rwa [← Value.sameKey_text_iff.1 hkey]
    exact isRecord_iff.2 (hsections name hname e.2 (h.find?_text.2 hmem))

end

/-- What one document comes to among the files of a folder is read as the document itself without
    the sections that are no records. -/
theorem ofValue_gather_single (h : m.IsDistinct)
    (hsections : ∀ name, (sectionOf m name).IsDistinct) :
    ofValue (.record (gather [m])) = ofValue (.record (withoutMalformed m)) := by
  have hsection : ∀ name ∈ mergedSections,
      sectionOf (gather [m]) name = sectionOf (withoutMalformed m) name := by
    intro name hname
    rw [sectionOf_gather hname, sectionOf_withoutMalformed h, List.flatMap_singleton,
      merge_of_isDistinct (hsections name), List.nil_append]
  rw [ofValue_record gather_hasRecordSections,
    ofValue_record (withoutMalformed_hasRecordSections h), hsection _ (by decide),
    hsection _ (by decide), hsection _ (by decide),
    withDefault_congr (find?_gather_single h (by decide)),
    withDefault_congr (find?_gather_single h (by decide))]

section

variable {α : Type} {read : Value → Checked α} {default x : α} {v : Value}

theorem read_of_withDefault (h : withDefault m name read default = .ok x)
    (hv : Mapping.find? m (.text name) = some v) : read v = .ok x := by
  rw [withDefault, field?, hv] at h
  exact Checked.inside_ok h

theorem exists_record_of_recordOf {xs : List (String × α)} (h : recordOf read v = .ok xs) :
    ∃ es, v = .record es := by
  cases v with
  | record es => exact ⟨es, rfl⟩
  | _ => cases h

end

/-- The sections of a value that describes a configuration are records. -/
theorem hasRecordSections_of_ofValue (h : ofValue (.record m) = .ok c) : HasRecordSections m := by
  obtain ⟨fields, hfields, h⟩ := Checked.bind_ok h
  cases hfields
  obtain ⟨c', hc', -⟩ := Checked.bind_ok h
  obtain ⟨_, flows, h₄, hflows, rfl⟩ := Checked.seq_ok hc'
  obtain ⟨_, nodes, h₃, hnodes, rfl⟩ := Checked.seq_ok h₄
  obtain ⟨_, settings, h₂, hsettings, rfl⟩ := Checked.seq_ok h₃
  refine forall_mergedSections.2
    ⟨fun v hv => exists_record_of_recordOf (read_of_withDefault hnodes hv),
      fun v hv => exists_record_of_recordOf (read_of_withDefault hflows hv), fun v hv => ?_⟩
  have hread := read_of_withDefault hsettings hv
  cases v with
  | record es => exact ⟨es, rfl⟩
  | _ => cases hread

/-- What the only file of a folder comes to: in the folder its malformed sections are dropped, while
    the file itself is refused if there are any. -/
theorem folder_of_one_file (hfolder : fs.find? folder = some .folder)
    (hmaster : fs.find? (folder.child masterFile) = none)
    (honly : partNames fs folder = [name]) (hfile : HoldsEntries fs (folder.child name) m) :
    load fs folder = ofDocument (.record (withoutMalformed m)) ∧
    load fs (folder.child name) = ofDocument (.record m) ∧
    (HasRecordSections m → load fs folder = load fs (folder.child name)) ∧
    (¬HasRecordSections m → ∃ found, load fs (folder.child name) = .error (.invalid found)) := by
  have hload : load fs folder = ofDocument (.record (withoutMalformed m)) := by
    -- With one file to gather, what is gathered is the file without its malformed sections.
    have hparts : ∀ n ∈ partNames fs folder, HoldsEntries fs (folder.child n) m := by
      intro n hn
      rw [honly, List.mem_singleton] at hn
      rwa [hn]
    rw [load_folder hfolder hmaster (by simp [honly]) hparts, honly]
    show ofDocument (.record (gather [m])) = _
    rw [ofDocument_record, ofDocument_record, ofValue_gather_single hfile.isDistinct.1
      hfile.isDistinct.2]
  refine ⟨hload, load_file hfile, fun hsections => ?_, fun hsections => ?_⟩
  · rw [hload, load_file hfile, withoutMalformed_of_hasRecordSections hfile.isDistinct.1 hsections]
  · rw [load_file hfile, ofDocument_record]
    cases hread : ofValue (.record m) with
    | ok c => exact absurd (hasRecordSections_of_ofValue hread) hsections
    | issues found => exact ⟨found, rfl⟩

/-- A folder with one file, whose section `nodes` is a list. -/
def listedNodes : Files :=
  ⟨[], [(["d"], .folder), (["d", "a.yaml"], .file "nodes: [a]")]⟩

theorem value_listed : (Yaml.Node.sequence .sequence [.scalar .text "a"]).value =
    .ok (.list [.text "a"]) := by
  rw [Yaml.Node.value, Yaml.Node.values, Yaml.Node.values, Yaml.Node.value_text]
  rfl

theorem listedNodes_holdsEntries :
    HoldsEntries listedNodes ⟨false, ["d", "a.yaml"]⟩ [(.text "nodes", .list [.text "a"])] := by
  have htokens : (Yaml.Token.stream "nodes: [a]").tokens = [.blockMappingStart, .key,
      .scalar "nodes" true, .value, .flowSequenceStart, .scalar "a" true, .flowSequenceEnd,
      .blockEnd, .streamEnd] := by decide +kernel
  have hvalue : (Yaml.Node.mapping .mapping
      [(.scalar .text "nodes", .sequence .sequence [.scalar .text "a"])]).value =
      .ok (.record [(.text "nodes", .list [.text "a"])]) :=
    Yaml.Node.value_mapping (.cons (Yaml.Node.isEntry_text value_listed) .nil)
  exact .inl (readFile_of_read (by decide)
    (Yaml.read_of_tokens (by decide) htokens (by decide +kernel) rfl hvalue))

theorem listedNodes_partNames : partNames listedNodes ⟨false, ["d"]⟩ = ["a.yaml"] := by
  decide +kernel

/-- The section is dropped in the folder, while the file itself is refused. -/
theorem malformed_section_is_dropped :
    load listedNodes ⟨false, ["d"]⟩ = .ok ⟨"1.0", "main", ⟨.warning, none, false⟩, [], []⟩ ∧
    load listedNodes ⟨false, ["d", "a.yaml"]⟩ =
      .error (.invalid [⟨[.field "nodes"], .recordExpected⟩]) := by
  refine ⟨?_, load_file listedNodes_holdsEntries⟩
  have hparts : ∀ name ∈ partNames listedNodes ⟨false, ["d"]⟩, HoldsEntries listedNodes
      (Path.child ⟨false, ["d"]⟩ name) [(.text "nodes", .list [.text "a"])] := by
    intro name hname
    rw [listedNodes_partNames, List.mem_singleton] at hname
    exact hname ▸ listedNodes_holdsEntries
  rw [load_folder (by decide) (by decide) (by simp [listedNodes_partNames]) hparts,
    listedNodes_partNames]
  rfl

/-- Nothing is left of the file in the folder. -/
theorem folder_of_listed_nodes :
    load listedNodes ⟨false, ["d"]⟩ = ofDocument (.record []) ∧
    ∃ found, load listedNodes ⟨false, ["d", "a.yaml"]⟩ = .error (.invalid found) := by
  have hfind : listedNodes.find? ⟨false, ["d"]⟩ = some .folder := by decide
  obtain ⟨hfolder, -, -, hrefused⟩ :=
    folder_of_one_file hfind (by decide) listedNodes_partNames listedNodes_holdsEntries
  refine ⟨hfolder, hrefused fun hsections => ?_⟩
  obtain ⟨es, hes⟩ := hsections "nodes" (by decide) _ rfl
  cases hes

end Parley.Config

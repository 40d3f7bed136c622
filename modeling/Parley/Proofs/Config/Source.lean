import Parley.Config.Source
import Parley.Proofs.Config.Reading
import Parley.Proofs.Files
import Parley.Proofs.Yaml.Document

/-!
# Configurations put together from files

What a folder's files come to, whatever they hold: a section has the entries of that section of all
files, and outside the sections there are the other entries, later ones overwriting earlier ones
(`find?_gather_section`, `find?_gather_other`). A file is a configuration on its own, and a folder
is one through what its files come to (`load_file`, `load_folder`); it does not matter in which
order they are listed (`load_reordered`).

A mapping whose sections are records is read through its two fields outside the sections and the
entries of each section (`ofValue_record`). So this is all that has to be known of a mapping to
compare what is read of it with what is read of another.
-/

namespace Parley.Config

open Parley.Mapping

variable {m m' whole chunk es : Mapping} {docs : List Mapping} {key : Value} {name : String}

/-! ### Sections -/

theorem forall_mergedSections {p : String → Prop} :
    (∀ name ∈ mergedSections, p name) ↔ p "nodes" ∧ p "flows" ∧ p "settings" := by
  simp [mergedSections]

/-- The entries of a section, none if it is missing or no record. -/
def sectionOf (m : Mapping) (name : String) : Mapping :=
  match Mapping.find? m (.text name) with
  | some (.record es) => es
  | _ => []

theorem sectionOf_of_find? (h : Mapping.find? m (.text name) = some (.record es)) :
    sectionOf m name = es := by
  rw [sectionOf, h]

theorem sectionOf_eq_nil (h : ∀ es, Mapping.find? m (.text name) ≠ some (.record es)) :
    sectionOf m name = [] := by
  unfold sectionOf
  split
  · exact absurd ‹_› (h _)
  · rfl

theorem sectionOf_congr (h : ∀ es, Mapping.find? m (.text name) = some (.record es) ↔
    Mapping.find? m' (.text name) = some (.record es)) : sectionOf m name = sectionOf m' name := by
  by_cases hm : ∃ es, Mapping.find? m (.text name) = some (.record es)
  · obtain ⟨es, hes⟩ := hm
    rw [sectionOf_of_find? hes, sectionOf_of_find? ((h es).1 hes)]
  · rw [sectionOf_eq_nil (not_exists.1 hm), sectionOf_eq_nil fun es hes => hm ⟨es, (h es).2 hes⟩]

/-- The entries that are in no section. -/
def others (m : Mapping) : Mapping :=
  m.filter fun e => !isMergedSection e.1

theorem isMergedSection_text : isMergedSection (.text name) ↔ name ∈ mergedSections := by
  simp [isMergedSection]

theorem isMergedSection_congr {k : Value} (h : k.sameKey key) :
    isMergedSection k = isMergedSection key := by
  simp only [isMergedSection, Value.sameKey_congr h]

theorem not_sameKey_of_mem (hkey : ¬isMergedSection key) (hname : name ∈ mergedSections) :
    ¬(Value.text name).sameKey key := by
  intro hsame
  rw [← isMergedSection_congr hsame, isMergedSection_text] at hkey
  exact hkey hname

theorem mem_others_text {v : Value} :
    (.text name, v) ∈ others m ↔ (.text name, v) ∈ m ∧ name ∉ mergedSections := by
  rw [others, List.mem_filter, ← isMergedSection_text]
  simp

theorem isDistinct_others (h : m.IsDistinct) : (others m).IsDistinct :=
  h.filter _

/-- A section is merged into the same section of the files before. -/
theorem find?_mergeSection (h : Mapping.find? whole (.text name) = some (.record es)) :
    Mapping.find? (mergeSection chunk whole name) (.text name) =
      some (.record (es.merge (sectionOf chunk name))) := by
  unfold mergeSection
  split
  · rename_i entries hchunk
    rw [find?_insert, if_pos rfl, Mapping.get, h, sectionOf_of_find? hchunk]
    rfl
  · rename_i hchunk
    rw [h, sectionOf_eq_nil hchunk, merge_nil]

/-- What is at another key stays. -/
theorem find?_mergeSection_of_ne (h : ¬(Value.text name).sameKey key) :
    Mapping.find? (mergeSection chunk whole name) key = Mapping.find? whole key := by
  unfold mergeSection
  split
  · rw [find?_insert_key, if_neg h]
  · rfl

theorem find?_mergeSections_of_ne {names : List String}
    (h : ∀ name ∈ names, ¬(Value.text name).sameKey key) :
    Mapping.find? (names.foldl (mergeSection chunk) whole) key = Mapping.find? whole key := by
  induction names generalizing whole with
  | nil => rfl
  | cons name names ih =>
    obtain ⟨hname, hnames⟩ := List.forall_mem_cons.1 h
    rw [List.foldl_cons, ih hnames, find?_mergeSection_of_ne hname]

theorem find?_mergeSections {names : List String} (hnames : names.Nodup) (hname : name ∈ names)
    (h : Mapping.find? whole (.text name) = some (.record es)) :
    Mapping.find? (names.foldl (mergeSection chunk) whole) (.text name) =
      some (.record (es.merge (sectionOf chunk name))) := by
  induction names generalizing whole with
  | nil => cases hname
  | cons n names ih =>
    obtain ⟨hn, hnames⟩ := List.nodup_cons.1 hnames
    rw [List.foldl_cons]
    -- The section is merged in its own turn, and the other turns leave it as it is.
    by_cases heq : n = name
    · subst heq
      rw [find?_mergeSections_of_ne, find?_mergeSection h]
      intro n' hn' hsame
      rw [Value.sameKey_text, beq_iff_eq] at hsame
      exact hn (hsame ▸ hn')
    · refine ih hnames ((List.mem_cons.1 hname).resolve_left (Ne.symm heq)) ?_
      rw [find?_mergeSection_of_ne (by simpa using heq), h]

/-! ### Files one after the other -/

theorem find?_combine_section (hname : name ∈ mergedSections)
    (h : Mapping.find? whole (.text name) = some (.record es)) :
    Mapping.find? (combine whole chunk) (.text name) =
      some (.record (es.merge (sectionOf chunk name))) := by
  have hothers : Mapping.find? (others chunk).reverse (.text name) = none := by
    rw [find?_eq_none_iff]
    intro e he hsame
    have hother := (List.mem_filter.1 (List.mem_reverse.1 he)).2
    rw [isMergedSection_congr hsame, isMergedSection_text.2 hname] at hother
    cases hother
  rw [combine, find?_merge]
  show (Mapping.find? (others chunk).reverse _).or _ = _
  rw [hothers, Option.none_or, find?_mergeSections (by decide) hname h]

theorem find?_combine_other (hkey : ¬isMergedSection key) :
    Mapping.find? (combine whole chunk) key =
      (Mapping.find? (others chunk).reverse key).or (Mapping.find? whole key) := by
  rw [combine, find?_merge, find?_mergeSections_of_ne fun _ => not_sameKey_of_mem hkey]
  rfl

/-- What several documents come to. -/
def gather (docs : List Mapping) : Mapping :=
  docs.foldl combine noSections

/-- A section has the entries of all documents, later ones overwriting earlier ones. -/
theorem find?_gather_section (hname : name ∈ mergedSections) :
    Mapping.find? (gather docs) (.text name) =
      some (.record (Mapping.merge [] (docs.flatMap (sectionOf · name)))) := by
  induction docs using List.reverseRecOn with
  | nil =>
    have hempty : ∀ name ∈ mergedSections,
        Mapping.find? noSections (.text name) = some (.record []) :=
      forall_mergedSections.2 ⟨rfl, rfl, rfl⟩
    exact hempty name hname
  | append_singleton docs chunk ih =>
    rw [gather, List.foldl_append, List.foldl_cons, List.foldl_nil, List.flatMap_append,
      List.flatMap_singleton, merge_append]
    exact find?_combine_section hname ih

theorem find?_gather_other (hkey : ¬isMergedSection key) :
    Mapping.find? (gather docs) key = Mapping.find? (docs.flatMap others).reverse key := by
  induction docs using List.reverseRecOn with
  | nil =>
    rw [gather, List.foldl_nil, find?_eq_none_iff.2]
    · rfl
    · intro e he
      obtain ⟨name, hname, rfl⟩ := List.mem_map.1 he
      exact not_sameKey_of_mem hkey hname
  | append_singleton docs chunk ih =>
    rw [gather, List.foldl_append, List.foldl_cons, List.foldl_nil, List.flatMap_append,
      List.flatMap_singleton, List.reverse_append, find?_append, ← ih]
    exact find?_combine_other hkey

/-! ### Reading the files -/

variable {fs fs' : Files} {path folder : Path} {read : Reader}

theorem documentWith_of_ne_folder (h : fs.find? path ≠ some .folder) :
    documentWith read fs path = readFileWith read fs path := by
  unfold documentWith
  split
  · exact absurd ‹_› h
  · rfl

/-- A master file is all that counts in a folder. -/
theorem documentWith_of_master (hfolder : fs.find? folder = some .folder)
    (hmaster : (fs.find? (folder.child masterFile)).isSome) :
    documentWith read fs folder = readFileWith read fs (folder.child masterFile) := by
  rw [documentWith, hfolder]
  dsimp only
  rw [if_pos hmaster]

/-- The names of the files that a folder's configuration is put together from. -/
def partNames (fs : Files) (folder : Path) : List String :=
  (fs.names folder).filter fun name => name.endsWith ".yaml"

/-- Without a master file the documents of a folder are put together. -/
theorem documentWith_of_parts (hfolder : fs.find? folder = some .folder)
    (hmaster : fs.find? (folder.child masterFile) = none) (hsome : partNames fs folder ≠ []) :
    documentWith read fs folder = Value.record <$> ((partNames fs folder).map folder.child).foldlM
      (fun whole file => do addDocument whole (← readFileWith read fs file)) noSections := by
  have hfiles : partFiles fs folder = (partNames fs folder).map folder.child := rfl
  have hempty : ¬(partFiles fs folder).isEmpty := by
    rw [hfiles, List.isEmpty_iff, List.map_eq_nil_iff]
    exact hsome
  rw [documentWith, hfolder]
  dsimp only
  rw [hmaster, if_neg (by simp), if_neg hempty, hfiles]
  rfl

/-- The file at a path holds a mapping, or no content, which counts as the empty one. -/
def HoldsEntries (fs : Files) (path : Path) (entries : Mapping) : Prop :=
  readFile fs path = .ok (.record entries) ∨ entries = [] ∧ readFile fs path = .ok .null

theorem readFile_of_read {content : String} {v : Value}
    (hfile : fs.find? path = some (.file content)) (hread : Yaml.read content = .ok (some v)) :
    readFile fs path = .ok v := by
  rw [readFile, readFileWith, hfile]
  dsimp only
  rw [hread]
  rfl

theorem exists_read_of_readFile (h : readFile fs path = .ok (.record m)) :
    ∃ content, Yaml.read content = .ok (some (.record m)) := by
  unfold readFile readFileWith at h
  split at h
  · rename_i content _
    split at h
    · rename_i v hv
      cases v with
      | none => cases h
      | some v =>
        cases h
        exact ⟨content, hv⟩
    · cases h
  · cases h
  · cases h

/-- Keys are pairwise different in the mapping and in its sections. -/
theorem HoldsEntries.isDistinct (h : HoldsEntries fs path m) :
    m.IsDistinct ∧ ∀ name, (sectionOf m name).IsDistinct := by
  rcases h with h | ⟨rfl, -⟩
  · obtain ⟨content, hcontent⟩ := exists_read_of_readFile h
    obtain ⟨hm, hinner⟩ := Yaml.isDistinct_of_read hcontent
    refine ⟨hm, fun name => ?_⟩
    unfold sectionOf
    split
    · rename_i hsection
      obtain ⟨k, -, hmem⟩ := mem_of_find? hsection
      exact hinner hmem
    · exact isDistinct_nil
  · exact ⟨isDistinct_nil, fun _ => isDistinct_nil⟩

theorem ofDocument_record : ofDocument (.record m) = match ofValue (.record m) with
    | .ok c => .ok c
    | .issues found => .error (.invalid found) := by
  cases m <;> rfl

/-- A file is a configuration on its own. -/
theorem load_file (h : HoldsEntries fs path m) : load fs path = ofDocument (.record m) := by
  have hfile : fs.find? path ≠ some .folder := by
    intro hfolder
    rcases h with h | ⟨-, h⟩ <;> rw [readFile, readFileWith, hfolder] at h <;> cases h
  have hload : load fs path = readFile fs path >>= ofDocument := by
    rw [load, loadWith, documentWith_of_ne_folder hfile]
    rfl
  rw [hload]
  rcases h with h | ⟨rfl, h⟩ <;> rw [h] <;> rfl

theorem addDocument_of_holdsEntries (h : HoldsEntries fs path m) :
    (readFile fs path >>= addDocument whole) = .ok (combine whole m) := by
  rcases h with h | ⟨rfl, h⟩
  · rw [h]
    cases m <;> rfl
  · rw [h]
    rfl

theorem addDocuments_of_holdsEntries {parts : String → Mapping} {names : List String}
    (h : ∀ name ∈ names, HoldsEntries fs (folder.child name) (parts name)) :
    ((names.map folder.child).foldlM (fun whole file => do addDocument whole (← readFile fs file))
      whole) = .ok ((names.map parts).foldl combine whole) := by
  induction names generalizing whole with
  | nil => rfl
  | cons name names ih =>
    obtain ⟨hname, hnames⟩ := List.forall_mem_cons.1 h
    rw [List.map_cons, List.foldlM_cons, addDocument_of_holdsEntries hname]
    exact ih hnames

/-- A folder without a master file is what the documents of its files come to. -/
theorem load_folder {parts : String → Mapping} (hfolder : fs.find? folder = some .folder)
    (hmaster : fs.find? (folder.child masterFile) = none) (hsome : partNames fs folder ≠ [])
    (hparts : ∀ name ∈ partNames fs folder, HoldsEntries fs (folder.child name) (parts name)) :
    load fs folder = ofDocument (.record (gather ((partNames fs folder).map parts))) := by
  rw [load, loadWith, documentWith_of_parts hfolder hmaster hsome, ← readFile,
    addDocuments_of_holdsEntries hparts]
  rfl

/-- It does not matter in which order a folder lists its files. -/
theorem load_reordered (h : fs.Reordered fs') (path : Path) : load fs path = load fs' path := by
  have hread : readFileWith Yaml.read fs = readFileWith Yaml.read fs' := by
    funext path
    rw [readFileWith, readFileWith, h.find?_eq]
  have hfiles : partFiles fs = partFiles fs' := by
    funext folder
    rw [partFiles, partFiles, h.names_eq]
  have hdocument : documentWith Yaml.read fs path = documentWith Yaml.read fs' path := by
    rw [documentWith, documentWith, hread, hfiles, funext h.find?_eq]
  rw [load, loadWith, loadWith, hdocument]

/-! ### What a configuration is read from -/

/-- The sections that are there are records. -/
def HasRecordSections (m : Mapping) : Prop :=
  ∀ name ∈ mergedSections, ∀ v, Mapping.find? m (.text name) = some v → ∃ es, v = .record es

theorem withDefault_congr {α : Type} {read : Value → Checked α} {default : α}
    (h : Mapping.find? m (.text name) = Mapping.find? m' (.text name)) :
    withDefault m name read default = withDefault m' name read default := by
  rw [withDefault, field?, h]
  rfl

theorem hasRecordSections_of_forall
    (h : ∀ e ∈ m, isMergedSection e.1 → ∃ es, e.2 = .record es) : HasRecordSections m := by
  intro name hname v hv
  obtain ⟨k, hk, hmem⟩ := mem_of_find? hv
  refine h _ hmem ?_
  rwa [isMergedSection_congr hk, isMergedSection_text]

/-- A section is read from its entries, if it is a record where there is one. -/
theorem withDefault_section {α : Type} {read : Value → Checked α} {default : α}
    (h : HasRecordSections m) (hname : name ∈ mergedSections)
    (hdefault : read (.record []) = .ok default) :
    withDefault m name read default = (read (.record (sectionOf m name))).inside (.field name) := by
  rw [withDefault, field?, sectionOf]
  cases hfind : Mapping.find? m (.text name) with
  | none =>
    rw [hdefault]
    rfl
  | some v =>
    obtain ⟨es, rfl⟩ := h name hname v hfind
    rfl

/-- A configuration depends on the two fields outside the sections, and on the entries of each. -/
theorem ofValue_record (h : HasRecordSections m) : ofValue (.record m) =
    (FlowFile.mk <$> withDefault m "version" text currentVersion
      <*> withDefault m "root" text defaultRoot
      <*> (settings (.record (sectionOf m "settings"))).inside (.field "settings")
      <*> (recordOf node (.record (sectionOf m "nodes"))).inside (.field "nodes")
      <*> (recordOf flow (.record (sectionOf m "flows"))).inside (.field "flows")).bind
    supported := by
  have hsettings : withDefault m "settings" settings defaultSettings = _ :=
    withDefault_section h (by decide) rfl
  have hnodes : withDefault m "nodes" (recordOf node) [] = _ :=
    withDefault_section h (by decide) rfl
  have hflows : withDefault m "flows" (recordOf flow) [] = _ :=
    withDefault_section h (by decide) rfl
  rw [← hsettings, ← hnodes, ← hflows]
  rfl

theorem gather_hasRecordSections : HasRecordSections (gather docs) := by
  intro name hname v hv
  rw [find?_gather_section hname] at hv
  exact ⟨_, (Option.some.inj hv).symm⟩

theorem sectionOf_gather (hname : name ∈ mergedSections) :
    sectionOf (gather docs) name = Mapping.merge [] (docs.flatMap (sectionOf · name)) :=
  sectionOf_of_find? (find?_gather_section hname)

end Parley.Config

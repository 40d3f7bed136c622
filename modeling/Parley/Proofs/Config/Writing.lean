import Mathlib.Data.List.Basic
import Parley.Config.Compile
import Parley.Config.Writing
import Parley.Proofs.Config.Reading

/-!
# Writing what has been read

A configuration that has been read can be written out in full and read again, and nothing changes:
what is written are texts where texts are read, whole numbers and truth values where they are read
in any spelling, and the root of each flow where it was filled in.

A reading *rereads* what a function writes if this is so of all its results (`Rereads`). That of a
part is put together from those of its fields, in the way in which the reading itself is
(`Rereads.optional`, `Rereads.listOf`, `Rereads.recordOf`, `Rereads.withDefault`), so there is one
lemma for each kind of part, from payloads to the whole configuration
(`rereads_ofValue`).
-/

namespace Parley.Config

/-- The reading takes what is written of any of its results for that result. -/
def Rereads {α : Type} (read : Value → Checked α) (write : α → Value) : Prop :=
  ∀ ⦃v x⦄, read v = .ok x → read (write x) = .ok x

/-! ### Scalars and collections -/

section

variable {α : Type} {read : Value → Checked α} {write : α → Value}

theorem rereads_text : Rereads text .text := fun _ _ _ => rfl

/-- A text that is asked for is one that is there. -/
theorem Rereads.optional (h : Rereads read write) (hnull : ∀ x, write x ≠ .null) :
    Rereads (optional read) (optionalValue write) := by
  intro v o ho
  have hread : ∀ {w : Value}, w ≠ .null → Config.optional read w = some <$> read w := by
    intro w hw
    cases w <;> first | rfl | exact absurd rfl hw
  cases o with
  | none => rfl
  | some x =>
    cases v with
    | null => cases ho
    | _ =>
      obtain ⟨y, hy, hx⟩ := Checked.map_ok ho
      cases hx
      rw [optionalValue, hread (hnull x), h hy, Checked.map_ok_eq]

theorem Rereads.listOf (h : Rereads read write) : Rereads (listOf read) (listValue write) := by
  intro v xs hxs
  obtain ⟨items, -, hitems⟩ := Checked.bind_ok hxs
  have hread : ∀ x ∈ xs, read (write x) = .ok x := by
    intro x hx
    obtain ⟨item, -, hitem⟩ := Checked.each_ok hitems x hx
    exact h (Checked.inside_ok hitem)
  have hnumbered : numbered (xs.map write) = (numbered xs).map (Prod.map id write) := by
    rw [numbered, numbered, List.length_map, List.zip_map_right]
  refine Checked.each_eq_ok_iff.2 ?_
  rw [hnumbered, List.map_map]
  calc (numbered xs).map _ = (numbered xs).map (Checked.ok ∘ Prod.snd) :=
        List.map_congr_left fun i hi => by
          rw [Function.comp_apply, Prod.map_snd, hread i.2 (List.of_mem_zip hi).2]
          rfl
    _ = xs.map .ok := by rw [← List.map_map, numbered, List.map_snd_zip (by simp)]

theorem put_of_not_mem {name : String} {x : α} {es : List (String × α)}
    (h : name ∉ es.map Prod.fst) : put name x es = es ++ [(name, x)] := by
  induction es with
  | nil => rfl
  | cons e es ih =>
    rw [List.map_cons, List.mem_cons, not_or] at h
    rw [put, if_neg (Ne.symm h.1), ih h.2, List.cons_append]

/-- Entries whose names are pairwise different are kept as they are. -/
theorem foldl_put_of_nodup {es acc : List (String × α)} (h : ((acc ++ es).map Prod.fst).Nodup) :
    es.foldl (fun acc e => put e.1 e.2 acc) acc = acc ++ es := by
  induction es generalizing acc with
  | nil => exact (List.append_nil acc).symm
  | cons e es ih =>
    have hnew : e.1 ∉ acc.map Prod.fst := by
      rw [List.map_append, List.map_cons] at h
      exact fun hmem => (List.nodup_append.1 h).2.2 _ hmem _ List.mem_cons_self rfl
    rw [List.append_cons] at h
    rw [List.foldl_cons, put_of_not_mem hnew, ih h, List.append_assoc, List.singleton_append]

theorem Rereads.recordOf (h : Rereads read write) :
    Rereads (recordOf read) (recordValue write) := by
  intro v es hes
  have hread : ∀ e ∈ es, readEntry read (.text e.1, write e.2) = .ok e := by
    intro e he
    obtain ⟨w, hw⟩ := recordOf_ok hes he
    exact readEntry_eq_ok_iff.2 ⟨rfl, h hw⟩
  have heach : Checked.each (readEntry read) (es.map fun e => (.text e.1, write e.2)) = .ok es := by
    rw [Checked.each_eq_ok_iff, List.map_map]
    exact List.map_congr_left hread
  rw [recordValue, recordOf_record, heach, Checked.map_ok_eq,
    foldl_put_of_nodup (recordOf_nodup hes), List.nil_append]

/-! ### Fields -/

variable {fields fields' : Mapping} {name : String} {x : α}

theorem Rereads.required (h : Rereads read write)
    (hx : required fields name read = .ok x) (hfield : field? fields' name = some (write x)) :
    Config.required fields' name read = .ok x := by
  unfold Config.required at hx
  split at hx
  · rw [Config.required, hfield]
    exact congrArg (Checked.inside (.field name)) (h (Checked.inside_ok hx))
  · cases hx

/-- A field that has its default is read again if the default is. -/
theorem Rereads.withDefault {default : α} (h : Rereads read write)
    (hdefault : read (write default) = .ok default)
    (hx : withDefault fields name read default = .ok x)
    (hfield : field? fields' name = some (write x)) :
    Config.withDefault fields' name read default = .ok x := by
  have hread : read (write x) = .ok x := by
    rcases withDefault_ok hx with rfl | ⟨w, hw⟩
    · exact hdefault
    · exact h hw
  rw [Config.withDefault, hfield]
  exact congrArg (Checked.inside (.field name)) hread

end

/-! ### Payloads -/

/-- Whole numbers are written as such, whatever spelling they were read in. -/
theorem rereads_positive : Rereads positive .int := by
  intro v n h
  obtain ⟨m, -, hm⟩ := Checked.bind_ok h
  split at hm
  · cases hm
    exact if_pos ‹_›
  · cases hm

theorem rereads_nonempty : Rereads (fun v => (listOf text v).bind nonempty) (listValue .text) := by
  intro v xs h
  obtain ⟨ys, hys, hne⟩ := Checked.bind_ok h
  unfold nonempty at hne
  split at hne
  · cases hne
  · cases hne
    show (listOf text (listValue .text xs)).bind nonempty = .ok xs
    rw [rereads_text.listOf hys]
    exact if_neg ‹_›

/-- A record of one of several kinds has been read as one of its kind. -/
theorem tagged_ok {α : Type} {kinds : List (String × (Mapping → Checked α))} {v : Value} {x : α}
    (h : tagged kinds v = .ok x) : ∃ kind ∈ kinds, ∃ fields, kind.2 fields = .ok x := by
  cases v with
  | record fields =>
    simp only [tagged] at h
    split at h
    · cases h
    · split at h
      · rename_i name read hfind
        exact ⟨_, List.mem_of_find?_eq_some hfind, fields, Checked.inside_ok h⟩
      · cases h
  | _ => cases h

theorem rereads_output : Rereads output Payload.toValue := by
  intro v p h
  obtain ⟨kind, hkind, fields, hfields⟩ := tagged_ok h
  rcases List.mem_pair.1 hkind with rfl | rfl <;> obtain ⟨s, -, rfl⟩ := Checked.map_ok hfields <;>
    rfl

theorem rereads_expectation : Rereads expectation Payload.toValue := by
  intro v p h
  obtain ⟨kind, hkind, fields, hfields⟩ := tagged_ok h
  rcases List.mem_pair.1 hkind with rfl | rfl
  · obtain ⟨n, hn, rfl⟩ := Checked.map_ok hfields
    have hkind : expectation (Payload.toValue (.freeText n)) = Checked.inside (.field "free_text")
        (Payload.freeText <$> withDefault
          [(.text "kind", .text "free_text"), (.text "max_length", .int n)] "max_length" positive
          defaultMaxLength) := rfl
    rw [hkind, rereads_positive.withDefault rfl hn rfl]
    rfl
  · obtain ⟨options, hoptions, rfl⟩ := Checked.map_ok hfields
    have hkind : expectation (Payload.toValue (.choice options)) = Checked.inside (.field "choice")
        (Payload.choice <$> required
          [(.text "kind", .text "choice"), (.text "options", listValue .text options)] "options"
          fun v => (listOf text v).bind nonempty) := rfl
    rw [hkind, rereads_nonempty.required hoptions rfl]
    rfl

theorem Payload.toValue_ne_null (p : Payload) : p.toValue ≠ .null := by
  cases p <;> exact nofun

/-! ### The parts of a configuration -/

theorem rereads_optional_text : Rereads (optional text) (optionalValue .text) :=
  rereads_text.optional nofun

theorem rereads_branch : Rereads branch BranchConfig.toValue := by
  intro v b h
  obtain ⟨fields, -, h⟩ := Checked.bind_ok h
  obtain ⟨_, default, h₂, hdefault, rfl⟩ := Checked.seq_ok h
  obtain ⟨_, cases, h₁, hcases, rfl⟩ := Checked.seq_ok h₂
  obtain ⟨key, hkey, rfl⟩ := Checked.map_ok h₁
  rw [BranchConfig.toValue, recordValue, branch, fieldsOf, Checked.bind_ok_eq,
    rereads_text.required hkey rfl, rereads_text.recordOf.required hcases rfl,
    rereads_optional_text.withDefault rfl hdefault rfl]
  rfl

theorem rereads_node : Rereads node NodeConfig.toValue := by
  intro v n h
  obtain ⟨fields, -, h⟩ := Checked.bind_ok h
  obtain ⟨n', hread, hrouting⟩ := Checked.bind_ok h
  obtain ⟨rfl, -⟩ := routing_ok hrouting
  -- Field after field has been read, the last one first; each is read again as it has been.
  obtain ⟨_, decide, h₈, hdecide, rfl⟩ := Checked.seq_ok hread
  obtain ⟨_, branch, h₇, hbranch, rfl⟩ := Checked.seq_ok h₈
  obtain ⟨_, next, h₆, hnext, rfl⟩ := Checked.seq_ok h₇
  obtain ⟨_, patch, h₅, hpatch, rfl⟩ := Checked.seq_ok h₆
  obtain ⟨_, store, h₄, hstore, rfl⟩ := Checked.seq_ok h₅
  obtain ⟨_, transform, h₃, htransform, rfl⟩ := Checked.seq_ok h₄
  obtain ⟨_, expectation, h₂, hexpectation, rfl⟩ := Checked.seq_ok h₃
  obtain ⟨_, transform', h₁, htransform', rfl⟩ := Checked.seq_ok h₂
  obtain ⟨output, houtput, rfl⟩ := Checked.map_ok h₁
  have hvalue : Rereads Checked.ok (id : Value → Value) := fun _ _ _ => rfl
  rw [NodeConfig.toValue, recordValue, node, fieldsOf, Checked.bind_ok_eq]
  dsimp only
  rw [(rereads_output.optional Payload.toValue_ne_null).withDefault rfl houtput rfl,
    rereads_optional_text.withDefault rfl htransform' rfl,
    (rereads_expectation.optional Payload.toValue_ne_null).withDefault rfl hexpectation rfl,
    rereads_optional_text.withDefault rfl htransform rfl,
    rereads_optional_text.withDefault rfl hstore rfl,
    hvalue.recordOf.withDefault rfl hpatch rfl,
    rereads_optional_text.withDefault rfl hnext rfl,
    (rereads_branch.optional (fun _ => nofun)).withDefault rfl hbranch rfl,
    rereads_optional_text.withDefault rfl hdecide rfl]
  exact hrouting

/-- A flow that is given its own root is the same flow. -/
theorem flowOf_ok {description : String} {nodes : List String} {root next decide : Option String}
    {f : FlowConfig} (h : flowOf description nodes root next decide = .ok f) :
    ∃ root', f = ⟨description, nodes, root', next, decide⟩ ∧
      flowOf description nodes (some root') next decide = .ok f := by
  simp only [flowOf] at h
  split at h
  · cases h
  · rename_i hone
    split at h
    · rename_i hroot
      cases h
      refine ⟨_, rfl, ?_⟩
      rw [flowOf, if_neg hone]
      exact if_pos hroot
    · cases h

theorem rereads_flow : Rereads flow FlowConfig.toValue := by
  intro v f h
  obtain ⟨fields, -, h⟩ := Checked.bind_ok h
  obtain ⟨_, hread, rfl⟩ := Checked.bind_ok h
  obtain ⟨_, decide, h₄, hdecide, hf⟩ := Checked.seq_ok hread
  obtain ⟨_, next, h₃, hnext, rfl⟩ := Checked.seq_ok h₄
  obtain ⟨_, root, h₂, -, rfl⟩ := Checked.seq_ok h₃
  obtain ⟨_, nodes, h₁, hnodes, rfl⟩ := Checked.seq_ok h₂
  obtain ⟨description, hdescription, rfl⟩ := Checked.map_ok h₁
  obtain ⟨root, rfl, hflow⟩ := flowOf_ok hf
  -- The root is given now, so nothing is known of it from the first reading but `hflow`.
  rw [FlowConfig.toValue, recordValue, flow, fieldsOf, Checked.bind_ok_eq,
    rereads_text.withDefault rfl hdescription rfl, rereads_nonempty.required hnodes rfl,
    rereads_optional_text.withDefault rfl hnext rfl,
    rereads_optional_text.withDefault rfl hdecide rfl]
  exact hflow

theorem rereads_logLevel : Rereads logLevel fun l => .text l.name := by
  intro v l h
  cases l <;> rfl

theorem rereads_settings : Rereads settings Settings.toValue := by
  intro v s h
  obtain ⟨fields, -, h⟩ := Checked.bind_ok h
  obtain ⟨_, showState, h₂, hshow, rfl⟩ := Checked.seq_ok h
  obtain ⟨_, logFile, h₁, hfile, rfl⟩ := Checked.seq_ok h₂
  obtain ⟨logLevel, hlevel, rfl⟩ := Checked.map_ok h₁
  have htruth : Rereads truth .bool := fun _ _ _ => rfl
  rw [Settings.toValue, recordValue, settings, fieldsOf, Checked.bind_ok_eq,
    rereads_logLevel.withDefault rfl hlevel rfl, rereads_optional_text.withDefault rfl hfile rfl,
    htruth.withDefault rfl hshow rfl]
  rfl

theorem rereads_ofValue : Rereads ofValue FlowFile.toValue := by
  intro v c h
  obtain ⟨fields, -, h⟩ := Checked.bind_ok h
  obtain ⟨c', hread, hsupported⟩ := Checked.bind_ok h
  obtain rfl : c' = c := by
    unfold supported at hsupported
    split at hsupported <;> cases hsupported
    rfl
  obtain ⟨_, flows, h₄, hflows, rfl⟩ := Checked.seq_ok hread
  obtain ⟨_, nodes, h₃, hnodes, rfl⟩ := Checked.seq_ok h₄
  obtain ⟨_, settings, h₂, hsettings, rfl⟩ := Checked.seq_ok h₃
  obtain ⟨_, root, h₁, hroot, rfl⟩ := Checked.seq_ok h₂
  obtain ⟨version, hversion, rfl⟩ := Checked.map_ok h₁
  rw [FlowFile.toValue, recordValue, ofValue, fieldsOf, Checked.bind_ok_eq]
  dsimp only
  rw [rereads_text.withDefault rfl hversion rfl, rereads_text.withDefault rfl hroot rfl,
    rereads_settings.withDefault rfl hsettings rfl,
    rereads_node.recordOf.withDefault rfl hnodes rfl,
    rereads_flow.recordOf.withDefault rfl hflows rfl]
  exact hsupported

/-- A configuration that has been read, written out in full, is read as the same configuration, so
    its checks find the same defects and it compiles to the same blueprint. -/
theorem written_configuration_is_reread {v : Value} {c : FlowFile} (h : ofValue v = .ok c) :
    ofValue c.toValue = .ok c ∧ ∀ c', ofValue c.toValue = .ok c' →
      c'.defects = c.defects ∧ ∀ registry, c'.compile registry = c.compile registry := by
  have hread := rereads_ofValue h
  refine ⟨hread, fun c' hc' => ?_⟩
  cases hread.symm.trans hc'
  exact ⟨rfl, fun _ => rfl⟩

/-- A configuration that is spelled in another way than it is written: its bound is a text, its
    truth value a word, its flow has no root and most fields are not given. -/
theorem spelled_configuration_is_reread :
    let spelled : Value := .record
      [ (.text "settings", .record [(.text "show_state", .text "yes")]),
        (.text "nodes", .record [(.text "a", .record [(.text "expectation", .record
          [(.text "kind", .text "free_text"), (.text "max_length", .text "5")])])]),
        (.text "flows", .record [(.text "main", .record [(.text "nodes", .list [.text "a"])])]) ]
    let c : FlowFile :=
      ⟨"1.0", "main", ⟨.warning, none, true⟩,
        [("a", ⟨none, none, some (.freeText 5), none, none, [], none, none, none⟩)],
        [("main", ⟨"", ["a"], "a", none, none⟩)]⟩
    ofValue spelled = .ok c ∧ ofValue c.toValue = .ok c := by
  intro spelled c
  have h : ofValue spelled = .ok c := by rfl
  exact ⟨h, (written_configuration_is_reread h).1⟩

end Parley.Config

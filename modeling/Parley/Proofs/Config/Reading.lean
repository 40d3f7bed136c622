import Parley.Config.Reading

/-!
# Readings that succeed

What is known of a configuration because a value has been read as one. A reading
that is put together from others succeeds only where they do (`Checked.bind_ok`,
`Checked.seq_ok`, `Checked.each_ok`), so the rule about a record is one about every
record in the configuration.

* `routing_of_ofValue`: no node has both a next node and a branch;
* `isRegular_of_ofValue`: names are pairwise different within their section, and the
  root of each flow is one of its nodes.
-/

namespace Parley.Config

namespace Checked

variable {α β : Type} {x : Checked α} {y : β}

theorem bind_ok {f : α → Checked β} (h : x.bind f = .ok y) : ∃ z, x = .ok z ∧ f z = .ok y := by
  cases x with
  | ok z => exact ⟨z, rfl, h⟩
  | issues found => cases h

theorem map_ok {f : α → β} (h : f <$> x = .ok y) : ∃ z, x = .ok z ∧ f z = y := by
  cases x with
  | ok z =>
    cases h
    exact ⟨z, rfl, rfl⟩
  | issues found => cases h

theorem seq_ok {f : Checked (α → β)} (h : f <*> x = .ok y) :
    ∃ g z, f = .ok g ∧ x = .ok z ∧ g z = y := by
  cases f with
  | ok g =>
    cases x with
    | ok z =>
      cases h
      exact ⟨g, z, rfl, rfl, rfl⟩
    | issues found => cases h
  | issues found => cases x <;> cases h

theorem inside_ok {s : Step} {z : α} (h : x.inside s = .ok z) : x = .ok z := by
  cases x with
  | ok z' => exact h
  | issues found => cases h

@[simp] theorem map_ok_eq (f : α → β) (x : α) : f <$> (ok x : Checked α) = .ok (f x) := rfl

@[simp] theorem seq_ok_eq (f : α → β) (x : α) :
    (ok f : Checked (α → β)) <*> (ok x : Checked α) = .ok (f x) := rfl

@[simp] theorem bind_ok_eq (f : α → Checked β) (x : α) : (ok x).bind f = f x := rfl

/-- All items are in order exactly if each is. -/
theorem each_eq_ok_iff {f : α → Checked β} {xs : List α} {ys : List β} :
    each f xs = .ok ys ↔ xs.map f = ys.map .ok := by
  induction xs generalizing ys with
  | nil =>
    rw [each, List.map_nil, eq_comm, eq_comm (a := []), List.map_eq_nil_iff]
    exact ⟨fun h => by cases h; rfl, fun h => by rw [h]⟩
  | cons x xs ih =>
    constructor
    · intro h
      obtain ⟨g, zs, hg, hzs, rfl⟩ := seq_ok h
      obtain ⟨z, hz, rfl⟩ := map_ok hg
      rw [List.map_cons, hz, ih.1 hzs, List.map_cons]
    · intro h
      obtain ⟨y, zs, rfl, hy, hzs⟩ := List.map_eq_cons_iff.1 h.symm
      rw [each, ← hy, ih.2 hzs.symm, map_ok_eq, seq_ok_eq]

/-- Each result is that of an item. -/
theorem each_ok {f : α → Checked β} {xs : List α} {ys : List β} (h : each f xs = .ok ys) :
    ∀ y ∈ ys, ∃ x ∈ xs, f x = .ok y := by
  intro y hy
  have hmem : Checked.ok y ∈ xs.map f := by
    rw [each_eq_ok_iff.1 h]
    exact List.mem_map_of_mem hy
  exact List.mem_map.1 hmem

/-- Items are in order exactly if each is, whatever the results. -/
theorem exists_each_ok_iff {f : α → Checked β} {xs : List α} :
    (∃ ys, each f xs = .ok ys) ↔ ∀ x ∈ xs, ∃ y, f x = .ok y := by
  induction xs with
  | nil => exact ⟨fun _ => nofun, fun _ => ⟨[], rfl⟩⟩
  | cons x xs ih =>
    rw [List.forall_mem_cons, ← ih]
    constructor
    · rintro ⟨ys, h⟩
      obtain ⟨y, zs, rfl, hy, hzs⟩ := List.map_eq_cons_iff.1 (each_eq_ok_iff.1 h).symm
      exact ⟨⟨y, hy.symm⟩, zs, each_eq_ok_iff.2 hzs.symm⟩
    · rintro ⟨⟨y, hy⟩, zs, hzs⟩
      exact ⟨y :: zs, by rw [each, hy, hzs, map_ok_eq, seq_ok_eq]⟩

end Checked

/-! ### Records and their fields -/

section

variable {α : Type} {v : Value} {name : String} {x : α} {e : String × α} {es : List (String × α)}

theorem mem_put (h : e ∈ put name x es) : e = (name, x) ∨ e ∈ es := by
  induction es with
  | nil => exact .inl (List.mem_singleton.1 h)
  | cons e' es ih =>
    rw [put] at h
    split at h
    · rcases List.mem_cons.1 h with rfl | h
      · exact .inl rfl
      · exact .inr (List.mem_cons_of_mem e' h)
    · rcases List.mem_cons.1 h with rfl | h
      · exact .inr List.mem_cons_self
      · exact (ih h).imp_right (List.mem_cons_of_mem e')

theorem mem_foldl_put {acc : List (String × α)}
    (h : e ∈ es.foldl (fun acc e => put e.1 e.2 acc) acc) : e ∈ es ∨ e ∈ acc := by
  induction es generalizing acc with
  | nil => exact .inr h
  | cons e' es ih =>
    rcases ih h with h | h
    · exact .inl (List.mem_cons_of_mem e' h)
    · rcases mem_put h with rfl | h
      · exact .inl List.mem_cons_self
      · exact .inr h

/-- An entry is set in its place, or comes after the others. -/
theorem map_fst_put : (put name x es).map Prod.fst =
    if name ∈ es.map Prod.fst then es.map Prod.fst else es.map Prod.fst ++ [name] := by
  induction es with
  | nil => rfl
  | cons e es ih =>
    rw [put]
    by_cases he : e.1 = name
    · simp [he]
    · rw [if_neg he, List.map_cons, ih, List.map_cons]
      by_cases hmem : name ∈ es.map Prod.fst
      · rw [if_pos hmem, if_pos (List.mem_cons_of_mem _ hmem)]
      · rw [if_neg hmem, if_neg (by simpa [Ne.symm he] using hmem), List.cons_append]

theorem nodup_foldl_put {acc : List (String × α)} (h : (acc.map Prod.fst).Nodup) :
    ((es.foldl (fun acc e => put e.1 e.2 acc) acc).map Prod.fst).Nodup := by
  induction es generalizing acc with
  | nil => exact h
  | cons e es ih =>
    refine ih ?_
    rw [map_fst_put]
    split
    · exact h
    · exact List.nodup_append.2 ⟨h, by simp, fun x hx y hy => by
        rw [List.mem_singleton.1 hy]
        rintro rfl
        contradiction⟩

/-- An entry of a record that has a textual key. -/
def readEntry (read : Value → Checked α) (e : Value × Value) : Checked (String × α) :=
  Prod.mk <$> ((text e.1).inside (.field "[key]")).inside (keyStep e.1)
    <*> (read e.2).inside (keyStep e.1)

theorem recordOf_record {read : Value → Checked α} {entries : Mapping} :
    recordOf read (.record entries) = (fun es => es.foldl (fun acc e => put e.1 e.2 acc) []) <$>
      Checked.each (readEntry read) entries := rfl

theorem readEntry_eq_ok_iff {read : Value → Checked α} {entry : Value × Value} :
    readEntry read entry = .ok e ↔ text entry.1 = .ok e.1 ∧ read entry.2 = .ok e.2 := by
  constructor
  · intro h
    obtain ⟨_, y, hpair, hy, rfl⟩ := Checked.seq_ok h
    obtain ⟨key, hkey, rfl⟩ := Checked.map_ok hpair
    exact ⟨Checked.inside_ok (Checked.inside_ok hkey), Checked.inside_ok hy⟩
  · rintro ⟨hkey, hy⟩
    rw [readEntry, hkey, hy]
    rfl

/-- The entries of a record are what has been read of its own. -/
theorem exists_of_mem_recordOf {read : Value → Checked α} {entries : Mapping}
    (h : recordOf read (.record entries) = .ok es) (he : e ∈ es) :
    ∃ entry ∈ entries, text entry.1 = .ok e.1 ∧ read entry.2 = .ok e.2 := by
  obtain ⟨read', hread, rfl⟩ := Checked.map_ok h
  have hmem := (mem_foldl_put he).resolve_right List.not_mem_nil
  obtain ⟨entry, hentry, hread⟩ := Checked.each_ok hread e hmem
  exact ⟨entry, hentry, readEntry_eq_ok_iff.1 hread⟩

/-- No two entries of a record have one name. -/
theorem recordOf_nodup {read : Value → Checked α} (h : recordOf read v = .ok es) :
    (es.map Prod.fst).Nodup := by
  cases v with
  | record entries =>
    obtain ⟨read', -, rfl⟩ := Checked.map_ok h
    exact nodup_foldl_put .nil
  | _ => cases h

/-- The entries of a record are what has been read of its values. -/
theorem recordOf_ok {read : Value → Checked α} (h : recordOf read v = .ok es) (he : e ∈ es) :
    ∃ w, read w = .ok e.2 := by
  cases v with
  | record entries =>
    obtain ⟨entry, -, -, hentry⟩ := exists_of_mem_recordOf h he
    exact ⟨entry.2, hentry⟩
  | _ => cases h

/-- A field has its default, or what has been read. -/
theorem withDefault_ok {fields : Mapping} {read : Value → Checked α} {default : α}
    (h : withDefault fields name read default = .ok x) : x = default ∨ ∃ w, read w = .ok x := by
  unfold withDefault at h
  split at h
  · exact .inr ⟨_, Checked.inside_ok h⟩
  · cases h
    exact .inl rfl

end

/-! ### Nodes -/

/-- What routes in one way only is taken as it is. -/
theorem routing_ok {n n' : NodeConfig} (h : routing n = .ok n') :
    n' = n ∧ (n.next = none ∨ n.branch = none) := by
  unfold routing at h
  split at h
  · cases h
  · split at h
    · cases h
    · cases h
      have hboth : ¬(n.next.isSome && n.branch.isSome) = true := ‹_›
      cases hn : n.next with
      | none => exact ⟨rfl, .inl rfl⟩
      | some target =>
        rw [hn] at hboth
        exact ⟨rfl, .inr (by simpa using hboth)⟩

/-- A node that has been read routes in one way only. -/
theorem routing_of_node {v : Value} {n : NodeConfig} (h : node v = .ok n) :
    n.next = none ∨ n.branch = none := by
  obtain ⟨fields, -, h⟩ := Checked.bind_ok h
  obtain ⟨n', -, h⟩ := Checked.bind_ok h
  obtain ⟨rfl, hone⟩ := routing_ok h
  exact hone

/-- None of its fixed entries is there twice. -/
theorem nodup_of_node {v : Value} {n : NodeConfig} (h : node v = .ok n) :
    (n.patch.map Prod.fst).Nodup := by
  obtain ⟨fields, -, h⟩ := Checked.bind_ok h
  obtain ⟨n', hread, h⟩ := Checked.bind_ok h
  obtain ⟨rfl, -⟩ := routing_ok h
  obtain ⟨_, decide, h₈, -, rfl⟩ := Checked.seq_ok hread
  obtain ⟨_, branch, h₇, -, rfl⟩ := Checked.seq_ok h₈
  obtain ⟨_, next, h₆, -, rfl⟩ := Checked.seq_ok h₇
  obtain ⟨_, patch, h₅, hpatch, rfl⟩ := Checked.seq_ok h₆
  obtain ⟨_, store, h₄, -, rfl⟩ := Checked.seq_ok h₅
  obtain ⟨_, transform, h₃, -, rfl⟩ := Checked.seq_ok h₄
  obtain ⟨_, expectation, h₂, -, rfl⟩ := Checked.seq_ok h₃
  obtain ⟨_, transform', h₁, -, rfl⟩ := Checked.seq_ok h₂
  obtain ⟨output, -, rfl⟩ := Checked.map_ok h₁
  rcases withDefault_ok hpatch with hnone | ⟨w, hw⟩
  · simp [hnone]
  · exact recordOf_nodup hw

/-! ### Flows -/

theorem root_mem_of_flowOf {description : String} {nodes : List String}
    {root next decide : Option String} {f : FlowConfig}
    (h : flowOf description nodes root next decide = .ok f) : f.root ∈ f.nodes := by
  simp only [flowOf] at h
  split at h
  · cases h
  · split at h
    · cases h
      exact List.contains_iff_mem.1 ‹_›
    · cases h

/-- The root of a flow that has been read is one of its nodes. -/
theorem root_mem_of_flow {v : Value} {f : FlowConfig} (h : flow v = .ok f) : f.root ∈ f.nodes := by
  obtain ⟨fields, -, h⟩ := Checked.bind_ok h
  obtain ⟨_, hread, rfl⟩ := Checked.bind_ok h
  obtain ⟨_, decide, h₄, -, hf⟩ := Checked.seq_ok hread
  obtain ⟨_, next, h₃, -, rfl⟩ := Checked.seq_ok h₄
  obtain ⟨_, root, h₂, -, rfl⟩ := Checked.seq_ok h₃
  obtain ⟨_, nodes, h₁, -, rfl⟩ := Checked.seq_ok h₂
  obtain ⟨description, -, rfl⟩ := Checked.map_ok h₁
  exact root_mem_of_flowOf hf

/-! ### Whole configurations -/

variable {v : Value} {c : FlowFile}

/-- The sections of a configuration are read from fields of the value. -/
theorem sections_of_ofValue (h : ofValue v = .ok c) : ∃ fields,
    withDefault fields "nodes" (recordOf node) [] = .ok c.nodes ∧
    withDefault fields "flows" (recordOf flow) [] = .ok c.flows := by
  obtain ⟨fields, -, h⟩ := Checked.bind_ok h
  obtain ⟨c', hc', h⟩ := Checked.bind_ok h
  unfold supported at h
  split at h
  · cases h
    obtain ⟨_, flows, h₄, hflows, rfl⟩ := Checked.seq_ok hc'
    obtain ⟨_, nodes, h₃, hnodes, rfl⟩ := Checked.seq_ok h₄
    obtain ⟨_, settings, h₂, -, rfl⟩ := Checked.seq_ok h₃
    obtain ⟨_, root, h₁, -, rfl⟩ := Checked.seq_ok h₂
    obtain ⟨version, -, rfl⟩ := Checked.map_ok h₁
    exact ⟨fields, hnodes, hflows⟩
  · cases h

/-- Every node of a configuration routes in one way only. -/
theorem routing_of_ofValue (h : ofValue v = .ok c) :
    ∀ e ∈ c.nodes, e.2.next = none ∨ e.2.branch = none := by
  obtain ⟨fields, hnodes, -⟩ := sections_of_ofValue h
  intro e he
  rcases withDefault_ok hnodes with hnone | ⟨w, hw⟩
  · rw [hnone] at he
    cases he
  · obtain ⟨w', hw'⟩ := recordOf_ok hw he
    exact routing_of_node hw'

/-- The sections of a configuration have no name twice, and its flows begin with nodes
    of their own. -/
structure FlowFile.IsRegular (c : FlowFile) : Prop where
  nodes : (c.nodes.map Prod.fst).Nodup
  flows : (c.flows.map Prod.fst).Nodup
  rooted : ∀ e ∈ c.flows, e.2.root ∈ e.2.nodes

theorem isRegular_of_ofValue (h : ofValue v = .ok c) : c.IsRegular := by
  obtain ⟨fields, hnodes, hflows⟩ := sections_of_ofValue h
  refine ⟨?_, ?_, fun e he => ?_⟩
  · rcases withDefault_ok hnodes with hnone | ⟨w, hw⟩
    · simp [hnone]
    · exact recordOf_nodup hw
  · rcases withDefault_ok hflows with hnone | ⟨w, hw⟩
    · simp [hnone]
    · exact recordOf_nodup hw
  · rcases withDefault_ok hflows with hnone | ⟨w, hw⟩
    · rw [hnone] at he
      cases he
    · obtain ⟨w', hw'⟩ := recordOf_ok hw he
      exact root_mem_of_flow hw'

end Parley.Config

import Parley.Proofs.Fallible
import Parley.Proofs.Value.Mapping
import Parley.Yaml.Document

/-!
# The mappings of documents

The keys of each mapping of a document are pairwise different, whatever the text says: of several
entries with one key the last one stays, and merged entries give way to those that the mapping has
itself. So a mapping that has been read has distinct keys, and so has each mapping in it
(`isDistinct_of_read`).

The values in a mapping come from the nodes of its entries or, under a merge key, from those of
other mappings further down, which are gone through with them (`Node.merges_denotes`).

What a text is read as is decided by its tokens (`read_of_tokens`).
-/

namespace Parley.Yaml

namespace Layered

variable {α β γ : Type}

theorem map_ok {f : α → β} {x : Layered α} {y : β} (h : x.map f = .ok y) :
    ∃ z, x = .ok z ∧ f z = y := by
  cases x with
  | ok z =>
    cases h
    exact ⟨z, rfl, rfl⟩
  | refused => cases h

theorem both_ok {f : α → β → γ} {x : Layered α} {y : Layered β} {z : γ} (h : both f x y = .ok z) :
    ∃ a b, x = .ok a ∧ y = .ok b ∧ f a b = z := by
  cases x with
  | ok a =>
    cases y with
    | ok b =>
      cases h
      exact ⟨a, b, rfl, rfl, rfl⟩
    | refused => cases h
  | refused d =>
    cases y with
    | ok => cases h
    | refused e =>
      rw [both] at h
      split at h <;> nomatch h

theorem deeper_ok {x : Layered α} {y : α} (h : x.deeper = .ok y) : x = .ok y := by
  cases x with
  | ok z => exact h
  | refused => cases h

end Layered

namespace Scalar

theorem calendarValue_ne_record {t : Timestamp} {es : Mapping} :
    calendarValue t ≠ .ok (.record es) := by
  intro h
  unfold calendarValue at h
  split at h
  · obtain ⟨-, -, h⟩ := ok_of_bind h
    cases h
  · obtain ⟨offset, -, h⟩ := ok_of_bind h
    obtain ⟨-, -, h⟩ := ok_of_bind h
    dsimp only at h
    split at h
    · split at h
      · split at h <;> cases h
      · cases h
    · cases h

theorem value_ne_record {tag : Tag} {content : String} {es : Mapping} :
    value tag content ≠ .ok (.record es) := by
  intro h
  cases tag with
  | timestamp =>
    rw [value, timestamp] at h
    split at h
    · rename_i t ht
      cases hvalue : calendarValue t with
      | error => rw [hvalue] at h; cases h
      | ok v =>
        rw [hvalue] at h
        cases h
        exact calendarValue_ne_record hvalue
    · cases h
  | truth | integer | number | octets =>
    rw [value] at h
    obtain ⟨_, -, hvalue⟩ := ok_of_map h
    cases hvalue
  | _ => cases h

end Scalar

namespace Node

/-- The value is that of some node. -/
def Denotes (v : Value) : Prop := ∃ n : Node, n.value = .ok v

/-- The entries that a node supplies under a merge key. -/
def merges : Node → Layered Mapping
  | .mapping _ entries => (splitEntries entries).map Entries.all
  | .sequence _ items => lastFirst items
  | .scalar _ _ => .wrong

/-- A pair of a mapping has supplied merged entries, or one entry of its own. -/
theorem splitEntries_cons {k v : Node} {rest : List (Node × Node)} {es : Entries}
    (h : splitEntries ((k, v) :: rest) = .ok es) : ∃ later, splitEntries rest = .ok later ∧
      ((∃ merged, merges v = .ok merged ∧ es = ⟨merged ++ later.merged, later.own⟩) ∨
        ∃ key value, v.value = .ok value ∧ es = ⟨later.merged, (key, value) :: later.own⟩) := by
  rw [splitEntries.eq_def] at h
  dsimp only at h
  split at h
  · obtain ⟨merged, later, hmerged, hrest, rfl⟩ := Layered.both_ok h
    refine ⟨later, hrest, .inl ⟨merged, ?_, rfl⟩⟩
    cases v <;> exact hmerged
  · obtain ⟨entry, later, hentry, hrest, rfl⟩ := Layered.both_ok h
    obtain ⟨key, value, -, hvalue, rfl⟩ := Layered.both_ok hentry
    exact ⟨later, hrest, .inr ⟨key, value, hvalue, rfl⟩⟩

theorem lastFirst_cons {node : Node} {rest : List Node} {m : Mapping}
    (h : lastFirst (node :: rest) = .ok m) : ∃ first later, lastFirst rest = .ok later ∧
      merges node = .ok first ∧ m = later ++ first := by
  rw [lastFirst.eq_def] at h
  dsimp only at h
  obtain ⟨first, later, hfirst, hlater, rfl⟩ := Layered.both_ok h
  refine ⟨first, later, hlater, ?_, rfl⟩
  cases node with
  | mapping => exact hfirst
  | _ => cases hfirst

theorem mem_all {e : Value × Value} {es : Entries} :
    e ∈ es.all ↔ e ∈ es.merged ∨ e ∈ es.own := List.mem_append

mutual

theorem merges_denotes : (n : Node) → ∀ {m : Mapping}, merges n = .ok m → ∀ e ∈ m, Denotes e.2
  | .mapping _ entries, m, h => by
    obtain ⟨es, hes, rfl⟩ := Layered.map_ok h
    exact splitEntries_denotes entries hes
  | .sequence _ items, m, h => lastFirst_denotes items h
  | .scalar _ _, m, h => nomatch h

theorem splitEntries_denotes : (entries : List (Node × Node)) → ∀ {es : Entries},
    splitEntries entries = .ok es → ∀ e ∈ es.all, Denotes e.2
  | [], es, h, e, he => by
    rw [splitEntries] at h
    cases h
    cases he
  | (k, v) :: rest, es, h, e, he => by
    obtain ⟨later, hrest, ⟨merged, hmerged, rfl⟩ | ⟨key, value, hvalue, rfl⟩⟩ := splitEntries_cons h
    · rw [mem_all, List.mem_append, or_assoc] at he
      rcases he with he | he
      · exact merges_denotes v hmerged e he
      · exact splitEntries_denotes rest hrest e (mem_all.2 he)
    · rw [mem_all, List.mem_cons, or_left_comm] at he
      rcases he with rfl | he
      · exact ⟨v, hvalue⟩
      · exact splitEntries_denotes rest hrest e (mem_all.2 he)

theorem lastFirst_denotes : (items : List Node) → ∀ {m : Mapping},
    lastFirst items = .ok m → ∀ e ∈ m, Denotes e.2
  | [], m, h, e, he => by
    rw [lastFirst] at h
    cases h
    cases he
  | node :: rest, m, h, e, he => by
    obtain ⟨first, later, hlater, hfirst, rfl⟩ := lastFirst_cons h
    rcases List.mem_append.1 he with he | he
    · exact lastFirst_denotes rest hlater e he
    · exact merges_denotes node hfirst e he

end

/-! Only a mapping with the tag of one is constructed as a mapping. -/

theorem scalar_ne_record {tag : Tag} {content : String} {m : Mapping} :
    Layered.ofExcept (Scalar.value tag content) ≠ .ok (.record m) := by
  intro h
  cases hvalue : Scalar.value tag content with
  | error => rw [hvalue] at h; cases h
  | ok v =>
    rw [hvalue] at h
    cases h
    exact Scalar.value_ne_record hvalue

theorem value_sequence_ne_record {tag : Tag} {items : List Node} {m : Mapping} :
    (Node.sequence tag items).value ≠ .ok (.record m) := by
  intro h
  have hlist {x : Layered (List Value)} : (x.map Value.list).deeper ≠ .ok (.record m) := by
    intro h
    obtain ⟨_, -, hlist⟩ := Layered.map_ok (Layered.deeper_ok h)
    cases hlist
  rw [value.eq_def] at h
  dsimp only at h
  split at h
  · exact hlist h
  · exact hlist h
  · exact hlist h
  all_goals cases h

theorem entries_of_value {tag : Tag} {entries : List (Node × Node)} {m : Mapping}
    (h : (Node.mapping tag entries).value = .ok (.record m)) :
    ∃ all, allEntries entries = .ok all ∧ m = record all := by
  rw [value.eq_def] at h
  dsimp only at h
  -- Other tags make it a set, a scalar or nothing.
  split at h
  · obtain ⟨all, hall, hm⟩ := Layered.map_ok (Layered.deeper_ok h)
    cases hm
    exact ⟨all, hall, rfl⟩
  · obtain ⟨_, -, hset⟩ := Layered.map_ok (Layered.deeper_ok h)
    cases hset
  · cases h
  · cases h
  · cases h
  · split at h
    · cases h
    · split at h
      · cases h
      · split at h
        · cases h
        · exact absurd h scalar_ne_record

theorem allEntries_denotes {entries : List (Node × Node)} {all : Mapping}
    (h : allEntries entries = .ok all) : ∀ e ∈ all, Denotes e.2 := by
  unfold allEntries at h
  split at h
  · obtain ⟨es, hes, rfl⟩ := Layered.map_ok h
    exact splitEntries_denotes entries hes
  · cases h

/-- The keys of a mapping are pairwise different, and its values are those of nodes. -/
theorem record_of_value {n : Node} {m : Mapping} (h : n.value = .ok (.record m)) :
    m.IsDistinct ∧ ∀ e ∈ m, Denotes e.2 := by
  cases n with
  | scalar tag content =>
    rw [value] at h
    split at h
    · cases h
    · exact absurd h scalar_ne_record
  | sequence tag items => exact absurd h value_sequence_ne_record
  | mapping tag entries =>
    obtain ⟨all, hall, rfl⟩ := entries_of_value h
    refine ⟨Mapping.isDistinct_nil.merge _, fun e he => ?_⟩
    obtain ⟨e', hlast, hvalue, -⟩ := Mapping.exists_isLast_of_mem_merge he
    rw [← hvalue]
    exact allEntries_denotes hall e' hlast.mem

/-- A pair of a mapping that is the entry, its key being none of the special ones. -/
structure IsEntry (pair : Node × Node) (e : Value × Value) : Prop where
  not_merge : pair.1.tag ≠ .merge
  not_default : pair.1.tag ≠ .default
  not_collection : ¬pair.1.tag.isCollection
  key : pair.1.value = .ok e.1
  value : pair.2.value = .ok e.2

theorem value_text {s : String} : (Node.scalar .text s).value = .ok (.text s) := by
  rw [Node.value]
  rfl

theorem isEntry_text {s : String} {n : Node} {v : Value} (h : n.value = .ok v) :
    IsEntry (.scalar .text s, n) (.text s, v) :=
  ⟨nofun, nofun, nofun, value_text, h⟩

/-- A mapping without special keys has the values of its pairs. -/
theorem value_mapping {entries : List (Node × Node)} {m : Mapping}
    (h : List.Forall₂ IsEntry entries m) :
    (Node.mapping .mapping entries).value = .ok (.record (record m)) := by
  have hentries : entriesMergeWell entries ∧ splitEntries entries = .ok ⟨[], m⟩ := by
    induction h with
    | nil => exact ⟨by rw [entriesMergeWell], by rw [splitEntries]⟩
    | cons he _ ih =>
      constructor
      · rw [entriesMergeWell.eq_def]
        dsimp only
        rw [if_neg he.not_merge, ih.1]
        rfl
      · rw [splitEntries.eq_def]
        dsimp only
        rw [if_neg he.not_merge, if_neg he.not_collection, if_neg he.not_default, he.key, he.value,
          ih.2]
        rfl
  rw [Node.value, allEntries, if_pos hentries.1, hentries.2]
  rfl

end Node

/-- A document that has a value is that of a node. -/
theorem denotes_of_read {s : String} {v : Value} (h : read s = .ok (some v)) : Node.Denotes v := by
  unfold read at h
  dsimp only at h
  split at h
  · obtain ⟨node, -, h⟩ := ok_of_bind h
    cases node with
    | none => cases h
    | some n =>
      dsimp only at h
      cases hn : n.value with
      | ok w =>
        rw [hn] at h
        cases h
        exact ⟨n, hn⟩
      | refused depth cause =>
        rw [hn] at h
        cases h
  · cases h

/-- The keys of a mapping that has been read are pairwise different, and so are those of each
    mapping in it. -/
theorem isDistinct_of_read {s : String} {m : Mapping} (h : read s = .ok (some (.record m))) :
    m.IsDistinct ∧ ∀ {k : Value} {inner : Mapping}, (k, .record inner) ∈ m →
      inner.IsDistinct := by
  obtain ⟨n, hn⟩ := denotes_of_read h
  obtain ⟨hm, hvalues⟩ := Node.record_of_value hn
  refine ⟨hm, fun hmem => ?_⟩
  obtain ⟨n', hn'⟩ := hvalues _ hmem
  exact (Node.record_of_value hn').1

/-- The tokens of a text decide what it is read as. -/
theorem read_of_tokens {s : String} {tokens : List Token} {node : Node} {v : Value}
    (hallowed : (normalizeBreaks s.toList).all isAllowed)
    (htokens : (Token.stream s).tokens = tokens) (hrefusal : (Token.stream s).refusal = none)
    (hnode : ((Reading.document (4 * tokens.length + 4)).run ⟨tokens, .grammar, [], []⟩).map
      Prod.fst = .ok (some node))
    (hvalue : node.value = .ok v) : read s = .ok (some v) := by
  have hdocument : Node.ofDocument s = .ok (some node) := by
    rw [Node.ofDocument, htokens, hrefusal]
    exact hnode
  rw [read, if_pos hallowed, hdocument]
  show some <$> node.value.toExcept = .ok (some v)
  rw [hvalue]
  rfl

theorem read_error_of_tokens {s : String} {tokens : List Token} {cause : Refusal}
    (hallowed : (normalizeBreaks s.toList).all isAllowed)
    (htokens : (Token.stream s).tokens = tokens) (hrefusal : (Token.stream s).refusal = none)
    (hnode : ((Reading.document (4 * tokens.length + 4)).run ⟨tokens, .grammar, [], []⟩).map
      Prod.fst = .error cause) : read s = .error cause := by
  have hdocument : Node.ofDocument s = .error cause := by
    rw [Node.ofDocument, htokens, hrefusal]
    exact hnode
  rw [read, if_pos hallowed, hdocument]
  rfl

end Parley.Yaml

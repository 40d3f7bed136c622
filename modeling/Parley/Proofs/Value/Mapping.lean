import Mathlib.Data.List.Induction
import Mathlib.Data.List.Pairwise
import Parley.Proofs.Value.Key
import Parley.Value.Mapping

/-!
# Mappings

What a mapping has at a key, for keys of every kind, and what a merge leaves of the entries that are
merged. Put together entry by entry, a mapping has pairwise different keys (`IsDistinct.merge`), and
of several entries with one key it has the last one (`IsLast`).

* `find?_insert_key`, `find?_merge`: the value at a key is that of the last entry that has it;
* `IsLast.exists_mem_merge`, `exists_isLast_of_mem_merge`: the entries of a merged mapping are those
  that are not overwritten, but each may have its key in the spelling in which it was first given
  (`Alike`);
* `merge_of_isDistinct`: entries with keys of their own are put behind the others as they are.
-/

namespace Parley.Mapping

variable {m m' p : Mapping} {key k v : Value} {e : Value × Value}

/-- No two entries have the same key. -/
def IsDistinct (m : Mapping) : Prop :=
  m.Pairwise fun e e' => ¬e.1.sameKey e'.1

theorem find?_cons : find? (e :: m) key = if e.1.sameKey key then some e.2 else find? m key := by
  by_cases h : e.1.sameKey key <;> simp [find?, h]

theorem find?_append : find? (m ++ m') key = (find? m key).or (find? m' key) := by
  rw [find?, List.find?_append, Option.map_or]
  rfl

theorem find?_eq_none_iff : find? m key = none ↔ ∀ e ∈ m, ¬e.1.sameKey key := by
  rw [find?, Option.map_eq_none_iff, List.find?_eq_none]

theorem mem_of_find? (h : find? m key = some v) : ∃ k, k.sameKey key ∧ (k, v) ∈ m := by
  obtain ⟨e, he, rfl⟩ := Option.map_eq_some_iff.1 h
  have hkey := List.find?_some he
  exact ⟨e.1, hkey, List.mem_of_find?_eq_some he⟩

/-! ### Merging -/

/-- What is set at a key is what is there, and all else stays. -/
theorem find?_insert_key :
    find? (m.insert k v) key = if k.sameKey key then some v else find? m key := by
  induction m with
  | nil => exact find?_cons
  | cons e m ih =>
    rw [insert]
    split
    · rename_i he
      rw [find?_cons, find?_cons, Value.sameKey_congr he]
      split <;> rfl
    · rename_i he
      rw [find?_cons, find?_cons, ih]
      by_cases hk : k.sameKey key
      · rw [if_pos hk, if_pos hk, if_neg]
        exact fun hkey => he (Value.sameKey_trans hkey (Value.sameKey_comm.trans hk))
      · rw [if_neg hk, if_neg hk]

/-- The last entry of a patch that has the key decides, or the mapping if there is none. -/
theorem find?_merge : find? (m.merge p) key = (find? p.reverse key).or (find? m key) := by
  induction p generalizing m with
  | nil => rfl
  | cons e p ih =>
    rw [merge_cons, ih, find?_insert_key, List.reverse_cons, find?_append, Option.or_assoc,
      find?_cons]
    split <;> rfl

theorem insert_of_not_mem (h : ∀ e ∈ m, ¬e.1.sameKey key) : m.insert key v = m ++ [(key, v)] := by
  induction m with
  | nil => rfl
  | cons e m ih =>
    obtain ⟨he, hm⟩ := List.forall_mem_cons.1 h
    rw [insert, if_neg he, ih hm, List.cons_append]

/-- The keys stay as they are, but a new one is added at the end. -/
theorem keys_insert : (m.insert key v).keys = m.keys ∨
    (∀ e ∈ m, ¬e.1.sameKey key) ∧ (m.insert key v).keys = m.keys ++ [key] := by
  induction m with
  | nil => exact .inr ⟨nofun, rfl⟩
  | cons e m ih =>
    rw [insert]
    split
    · exact .inl rfl
    · rename_i he
      rcases ih with h | ⟨hnew, h⟩
      · exact .inl (congrArg (e.1 :: ·) h)
      · exact .inr ⟨List.forall_mem_cons.2 ⟨he, hnew⟩, congrArg (e.1 :: ·) h⟩

theorem isDistinct_iff : m.IsDistinct ↔ m.keys.Pairwise fun a b => ¬a.sameKey b := by
  rw [keys, List.pairwise_map]
  rfl

theorem isDistinct_nil : IsDistinct [] := List.Pairwise.nil

theorem IsDistinct.eq_of_sameKey {e' : Value × Value} (h : m.IsDistinct) (he : e ∈ m)
    (he' : e' ∈ m) (hkey : e.1.sameKey e'.1) : e = e' := by
  have : Std.Symm fun e e' : Value × Value => ¬e.1.sameKey e'.1 :=
    ⟨fun _ _ h h' => h (Value.sameKey_comm.trans h')⟩
  by_contra hne
  exact h.forall he he' hne hkey

theorem IsDistinct.of_perm (h : m.IsDistinct) (hperm : m.Perm m') : m'.IsDistinct :=
  (hperm.pairwise_iff fun h h' => h (Value.sameKey_comm.trans h')).1 h

theorem IsDistinct.filter (h : m.IsDistinct) (q : Value × Value → Bool) :
    IsDistinct (m.filter q) :=
  List.Pairwise.filter q h

theorem IsDistinct.insert (h : m.IsDistinct) (key v : Value) : (m.insert key v).IsDistinct := by
  rw [isDistinct_iff] at h ⊢
  rcases keys_insert with hkeys | ⟨hnew, hkeys⟩
  · rwa [hkeys]
  · rw [hkeys, List.pairwise_append]
    refine ⟨h, List.pairwise_singleton _ _, fun a ha b hb => ?_⟩
    obtain ⟨e, he, rfl⟩ := List.mem_map.1 ha
    rw [List.mem_singleton.1 hb]
    exact hnew e he

theorem IsDistinct.merge (h : m.IsDistinct) (p : Mapping) : (m.merge p).IsDistinct := by
  induction p generalizing m with
  | nil => exact h
  | cons e p ih => exact ih (h.insert e.1 e.2)

theorem merge_of_isDistinct (h : IsDistinct (m ++ p)) : m.merge p = m ++ p := by
  induction p generalizing m with
  | nil => exact (List.append_nil m).symm
  | cons e p ih =>
    have hnew : ∀ e' ∈ m, ¬e'.1.sameKey e.1 := fun e' he' =>
      (List.pairwise_append.1 h).2.2 e' he' e List.mem_cons_self
    rw [List.append_cons] at h
    rw [merge_cons, insert_of_not_mem hnew, ih h, List.append_assoc, List.singleton_append]

/-! ### What is not overwritten -/

/-- The entry is one of the mapping, and no later one has its key. -/
def IsLast (p : Mapping) (e : Value × Value) : Prop :=
  ∃ before after, p = before ++ e :: after ∧ ∀ e' ∈ after, ¬e.1.sameKey e'.1

theorem IsLast.mem (h : IsLast p e) : e ∈ p := by
  obtain ⟨before, after, rfl, -⟩ := h
  exact List.mem_append_right before List.mem_cons_self

theorem not_isLast_nil : ¬IsLast [] e := fun h => List.not_mem_nil h.mem

theorem isLast_concat {x : Value × Value} :
    IsLast (p ++ [x]) e ↔ e = x ∨ IsLast p e ∧ ¬e.1.sameKey x.1 := by
  constructor
  · rintro ⟨before, after, hp, hafter⟩
    rcases after.eq_nil_or_concat with rfl | ⟨after, y, rfl⟩
    · exact .inl (List.append_singleton_inj.1 hp).2.symm
    · rw [List.concat_eq_append, ← List.cons_append, ← List.append_assoc,
        List.append_singleton_inj] at hp
      obtain ⟨rfl, rfl⟩ := hp
      refine .inr ⟨⟨before, after, rfl, fun e' he' => hafter e' ?_⟩, hafter x ?_⟩
      · simp [he']
      · simp
  · rintro (rfl | ⟨⟨before, after, rfl, hafter⟩, hx⟩)
    · exact ⟨p, [], rfl, nofun⟩
    · refine ⟨before, after ++ [x], by simp, fun e' he' => ?_⟩
      rcases List.mem_append.1 he' with he' | he'
      · exact hafter e' he'
      · rwa [List.mem_singleton.1 he']

/-- Of entries with keys of their own, each is the last one. -/
theorem IsDistinct.isLast_iff (h : p.IsDistinct) : IsLast p e ↔ e ∈ p := by
  refine ⟨IsLast.mem, fun he => ?_⟩
  obtain ⟨before, after, rfl⟩ := List.append_of_mem he
  exact ⟨before, after, rfl, fun e' he' =>
    (List.pairwise_cons.1 (List.pairwise_append.1 h).2.1).1 e' he'⟩

/-- Two entries have one value, and keys that are the same if they are spelled in two ways. -/
def Alike (e e' : Value × Value) : Prop :=
  e.2 = e'.2 ∧ (e = e' ∨ e.1.sameKey e'.1)

theorem mem_insert_of_ne (he : e ∈ m) (hkey : ¬e.1.sameKey key) : e ∈ m.insert key v := by
  induction m with
  | nil => cases he
  | cons x m ih =>
    rw [insert]
    rcases List.mem_cons.1 he with rfl | he
    · rw [if_neg hkey]
      exact List.mem_cons_self
    · split
      · exact List.mem_cons_of_mem _ he
      · exact List.mem_cons_of_mem _ (ih he)

theorem exists_mem_insert (m : Mapping) (e : Value × Value) :
    ∃ e' ∈ m.insert e.1 e.2, Alike e e' := by
  induction m with
  | nil => exact ⟨e, List.mem_cons_self, rfl, .inl rfl⟩
  | cons x m ih =>
    rw [insert]
    split
    · rename_i hx
      exact ⟨(x.1, e.2), List.mem_cons_self, rfl, .inr (Value.sameKey_comm.trans hx)⟩
    · obtain ⟨e', he', halike⟩ := ih
      exact ⟨e', List.mem_cons_of_mem x he', halike⟩

/-- What is there after an entry has been set is that entry, or has another key. -/
theorem IsDistinct.of_mem_insert (h : m.IsDistinct) {x : Value × Value}
    (he : e ∈ m.insert x.1 x.2) : Alike x e ∨ e ∈ m ∧ ¬e.1.sameKey x.1 := by
  induction m with
  | nil => exact .inl (List.mem_singleton.1 he ▸ ⟨rfl, .inl rfl⟩)
  | cons y m ih =>
    obtain ⟨hy, hm⟩ := List.pairwise_cons.1 h
    rw [Mapping.insert] at he
    split at he
    · rename_i hkey
      rcases List.mem_cons.1 he with rfl | he
      · exact .inl ⟨rfl, .inr (Value.sameKey_comm.trans hkey)⟩
      · refine .inr ⟨List.mem_cons_of_mem y he, fun hkey' => hy e he ?_⟩
        exact Value.sameKey_trans hkey (Value.sameKey_comm.trans hkey')
    · rename_i hkey
      rcases List.mem_cons.1 he with rfl | he
      · exact .inr ⟨List.mem_cons_self, hkey⟩
      · exact (ih hm he).imp_right (And.imp_left (List.mem_cons_of_mem y))

theorem merge_concat {x : Value × Value} : m.merge (p ++ [x]) = (m.merge p).insert x.1 x.2 := by
  rw [merge_append]
  rfl

/-- Every entry that is not overwritten is in the merged mapping. -/
theorem IsLast.exists_mem_merge (h : IsLast p e) : ∃ e' ∈ merge [] p, Alike e e' := by
  induction p using List.reverseRecOn with
  | nil => exact absurd h not_isLast_nil
  | append_singleton p x ih =>
    -- The last entry of the patch is set in what the others come to.
    rw [merge_concat]
    rcases isLast_concat.1 h with rfl | ⟨hlast, hne⟩
    · exact exists_mem_insert _ _
    · obtain ⟨e', he', halike⟩ := ih hlast
      refine ⟨e', mem_insert_of_ne he' ?_, halike⟩
      rcases halike.2 with rfl | hkey
      · exact hne
      · rwa [← Value.sameKey_congr hkey]

/-- A merged mapping has no other entries than those that are not overwritten. -/
theorem exists_isLast_of_mem_merge (h : e ∈ merge [] p) : ∃ e', IsLast p e' ∧ Alike e' e := by
  induction p using List.reverseRecOn with
  | nil => cases h
  | append_singleton p x ih =>
    rw [merge_concat] at h
    rcases (isDistinct_nil.merge p).of_mem_insert h with halike | ⟨hmem, hne⟩
    · exact ⟨x, isLast_concat.2 (.inl rfl), halike⟩
    · obtain ⟨e', hlast, halike⟩ := ih hmem
      refine ⟨e', isLast_concat.2 (.inr ⟨hlast, ?_⟩), halike⟩
      rcases halike.2 with rfl | hkey
      · exact hne
      · rwa [Value.sameKey_congr hkey]

/-- The value at a text is that of the last entry that has it. -/
theorem find?_reverse_text {s : String} :
    find? p.reverse (.text s) = some v ↔ IsLast p (.text s, v) := by
  induction p using List.reverseRecOn with
  | nil => exact ⟨nofun, fun h => absurd h not_isLast_nil⟩
  | append_singleton p x ih =>
    rw [List.reverse_append, List.reverse_singleton, List.singleton_append, find?_cons,
      isLast_concat, ← ih]
    by_cases hx : x.1.sameKey (.text s)
    · have hkey := Value.sameKey_text_iff.1 hx
      rw [if_pos hx, or_iff_left fun h => h.2 (Value.sameKey_comm.trans hx), Option.some_inj,
        Prod.ext_iff, hkey, and_iff_right rfl, eq_comm]
    · have hne : (Value.text s, v) ≠ x := by
        rintro rfl
        exact hx (Value.sameKey_text_iff.2 rfl)
      rw [if_neg hx, or_iff_right hne, and_iff_left fun h => hx (Value.sameKey_comm.trans h)]

theorem IsDistinct.find?_text {s : String} (h : m.IsDistinct) :
    find? m (.text s) = some v ↔ (.text s, v) ∈ m := by
  constructor
  · intro hv
    obtain ⟨k, hk, hmem⟩ := mem_of_find? hv
    rwa [Value.sameKey_text_iff.1 hk] at hmem
  · intro hmem
    induction m with
    | nil => cases hmem
    | cons x m ih =>
      obtain ⟨hx, hm⟩ := List.pairwise_cons.1 h
      rw [find?_cons]
      rcases List.mem_cons.1 hmem with rfl | hmem
      · exact if_pos (Value.sameKey_text_iff.2 rfl)
      · rw [if_neg (hx _ hmem), ih hm hmem]

end Parley.Mapping

import Parley.Proofs.Value.Mapping

/-!
# Merging as an action on mappings

The state of a conversation comes from patches that are merged one after the other. A merge keeps
the order of keys and lets the patch decide on values, for keys of every kind:

* `keys_merge`: the keys are those of the state, and then those of the patch that it does not have;
  over several patches, each key is where it is first mentioned (`firstMentions`,
  `keys_foldl_merge`);
* `find?_foldl_merge`: the value at a key is that of the last patch that has it;
* `merge_assoc`: patches can be merged with each other first, and then into the state;
* `merging_is_ordered_action`: all of this for mappings as they are handed over, where there may be
  nothing in place of an empty one (`Denotes`).
-/

namespace Parley.Mapping

variable {m n p q : Mapping} {ps : List Mapping} {key k v w : Value} {keys ks : List Value}

/-! ### Keys that are set twice -/

theorem contains_iff : m.contains key ↔ ∃ e ∈ m, e.1.sameKey key :=
  List.any_eq_true

/-- What is set last stays, under the key as it was spelled first. -/
theorem insert_insert (h : key.sameKey k) : (m.insert key v).insert k w = m.insert key w := by
  induction m with
  | nil => simp [insert, h]
  | cons e m ih =>
    by_cases he : e.1.sameKey key
    · have hk := Value.sameKey_trans he h
      simp [insert, he, hk]
    · have hk : ¬e.1.sameKey k := fun hk =>
        he (Value.sameKey_trans hk (Value.sameKey_comm.trans h))
      simp [insert, he, hk, ih]

/-- A key that is there is set in its place, so it does not matter which of two is set first. -/
theorem insert_comm (h : m.contains key) (hne : ¬k.sameKey key) :
    (m.insert k w).insert key v = (m.insert key v).insert k w := by
  induction m with
  | nil => cases h
  | cons e m ih =>
    by_cases he : e.1.sameKey key
    · have hk : ¬e.1.sameKey k := fun hk =>
        hne (Value.sameKey_trans (Value.sameKey_comm.trans hk) he)
      simp [insert, he, hk]
    · obtain ⟨x, hx, hkey⟩ := contains_iff.1 h
      rcases List.mem_cons.1 hx with rfl | hx
      · exact absurd hkey he
      · have ih := ih (contains_iff.2 ⟨x, hx, hkey⟩)
        by_cases hk : e.1.sameKey k <;> simp [insert, he, hk, ih]

theorem contains_insert : (m.insert k v).contains key = (k.sameKey key || m.contains key) := by
  induction m with
  | nil => simp [insert, contains]
  | cons e m ih =>
    rw [insert]
    split
    · rename_i he
      simp only [contains, List.any_cons, Value.sameKey_congr he]
      cases k.sameKey key <;> rfl
    · simp only [contains, List.any_cons] at ih ⊢
      rw [ih, Bool.or_left_comm]

/-- So it can be set before others are, if it is not one of them. -/
theorem insert_merge (hp : ∀ e ∈ p, ¬e.1.sameKey key) (h : m.contains key) :
    (m.merge p).insert key v = (m.insert key v).merge p := by
  induction p generalizing m with
  | nil => rfl
  | cons e p ih =>
    obtain ⟨he, hp⟩ := List.forall_mem_cons.1 hp
    have hset : (m.insert e.1 e.2).contains key := by rw [contains_insert, h, Bool.or_true]
    rw [merge_cons, merge_cons, ih hp hset, insert_comm h he]

/-- An entry of a patch can as well be set after all others. -/
theorem merge_insert (hp : p.IsDistinct) : m.merge (p.insert key v) = (m.merge p).insert key v := by
  induction p generalizing m with
  | nil => rfl
  | cons e p ih =>
    obtain ⟨hfirst, hp⟩ := List.pairwise_cons.1 hp
    by_cases he : e.1.sameKey key
    · -- It is the key of the first entry, and of no other one.
      have hset : insert (e :: p) key v = (e.1, v) :: p := if_pos he
      have hother : ∀ x ∈ p, ¬x.1.sameKey key := fun x hx hkey =>
        hfirst x hx (Value.sameKey_trans he (Value.sameKey_comm.trans hkey))
      have hthere : (m.insert e.1 e.2).contains key := by rw [contains_insert, he, Bool.true_or]
      rw [hset, merge_cons, merge_cons, insert_merge hother hthere, insert_insert he]
    · have hset : insert (e :: p) key v = e :: insert p key v := if_neg he
      rw [hset, merge_cons, merge_cons, ih hp]

/-- Two patches can be merged one after the other, or with each other first. -/
theorem merge_assoc (hp : p.IsDistinct) : (m.merge p).merge q = m.merge (p.merge q) := by
  induction q generalizing p with
  | nil => rfl
  | cons e q ih => rw [merge_cons, merge_cons, ← merge_insert hp, ih (hp.insert e.1 e.2)]

/-! ### The order of keys -/

theorem contains_eq_any_keys : m.contains key = m.keys.any (·.sameKey key) := by
  rw [contains, Mapping.keys, List.any_map]
  rfl

/-- A key that is not there is put behind the others. -/
theorem keys_insert_eq :
    (m.insert key v).keys = m.keys ++ if m.contains key then [] else [key] := by
  induction m with
  | nil => rfl
  | cons e m ih =>
    have hkeys : keys (e :: m) = e.1 :: keys m := rfl
    by_cases he : e.1.sameKey key
    · rw [contains_eq_any_keys, hkeys, List.any_cons, he, Bool.true_or, if_pos rfl,
        List.append_nil, insert, if_pos he]
      rfl
    · rw [contains_eq_any_keys, hkeys, List.any_cons, Bool.eq_false_iff.2 he, Bool.false_or,
        ← contains_eq_any_keys, List.cons_append, ← ih, insert, if_neg he]
      rfl

/-- Of keys that are the same only the first. -/
def firstMentions : List Value → List Value
  | [] => []
  | key :: keys => key :: (firstMentions keys).filter fun k => !key.sameKey k

theorem firstMentions_append : firstMentions (keys ++ ks) =
    firstMentions keys ++ (firstMentions ks).filter fun k => !keys.any (·.sameKey k) := by
  induction keys with
  | nil => exact (List.filter_eq_self.2 fun _ _ => rfl).symm
  | cons key keys ih => simp [firstMentions, ih, List.filter_filter]

theorem pairwise_firstMentions : (firstMentions keys).Pairwise fun a b => ¬a.sameKey b := by
  induction keys with
  | nil => exact List.Pairwise.nil
  | cons key keys ih =>
    refine List.pairwise_cons.2 ⟨fun k hk => ?_, ih.filter _⟩
    simpa using (List.mem_filter.1 hk).2

theorem firstMentions_eq_self (h : keys.Pairwise fun a b => ¬a.sameKey b) :
    firstMentions keys = keys := by
  induction keys with
  | nil => rfl
  | cons key keys ih =>
    obtain ⟨hkey, hkeys⟩ := List.pairwise_cons.1 h
    rw [firstMentions, ih hkeys, List.filter_eq_self.2]
    exact fun k hk => by simpa using hkey k hk

/-- What is the same as one of the keys is the same as the first mention of it. -/
theorem any_firstMentions : (firstMentions keys).any (·.sameKey k) = keys.any (·.sameKey k) := by
  induction keys with
  | nil => rfl
  | cons key keys ih =>
    rw [firstMentions, List.any_cons, List.any_cons, ← ih]
    by_cases hkey : key.sameKey k
    · rw [hkey, Bool.true_or, Bool.true_or]
    · rw [List.any_filter]
      congr 2
      funext k'
      by_cases hk : k'.sameKey k
      · have hne : ¬key.sameKey k' := fun h => hkey (Value.sameKey_trans h hk)
        simp [hk, hne]
      · simp [hk]

theorem firstMentions_append_left :
    firstMentions (firstMentions keys ++ ks) = firstMentions (keys ++ ks) := by
  rw [firstMentions_append, firstMentions_append, firstMentions_eq_self pairwise_firstMentions]
  simp only [any_firstMentions]

/-- Behind the keys of a mapping, each key of a patch is put where it is first mentioned. -/
theorem keys_merge (h : m.IsDistinct) : (m.merge p).keys = firstMentions (m.keys ++ p.keys) := by
  induction p generalizing m with
  | nil =>
    have hnil : keys [] = [] := rfl
    rw [merge_nil, hnil, List.append_nil, firstMentions_eq_self (isDistinct_iff.1 h)]
  | cons e p ih =>
    have hfirst : (m.insert e.1 e.2).keys = firstMentions (m.keys ++ [e.1]) := by
      rw [keys_insert_eq, contains_eq_any_keys, firstMentions_append,
        firstMentions_eq_self (isDistinct_iff.1 h)]
      cases hthere : m.keys.any (·.sameKey e.1) with
      | true => simp [firstMentions, hthere]
      | false => simp [firstMentions, hthere]
    rw [merge_cons, ih (h.insert e.1 e.2), hfirst, firstMentions_append_left, List.append_assoc]
    rfl

/-- A patch with keys of its own adds those of its keys that are not there. -/
theorem keys_merge_of_isDistinct (h : m.IsDistinct) (hp : p.IsDistinct) :
    (m.merge p).keys = m.keys ++ p.keys.filter fun k => !m.contains k := by
  simp only [contains_eq_any_keys]
  rw [keys_merge h, firstMentions_append, firstMentions_eq_self (isDistinct_iff.1 h),
    firstMentions_eq_self (isDistinct_iff.1 hp)]

/-! ### Several patches -/

theorem foldl_merge : ps.foldl merge m = m.merge ps.flatten := by
  induction ps generalizing m with
  | nil => rfl
  | cons p ps ih => rw [List.foldl_cons, ih, List.flatten_cons, merge_append]

/-- Over several patches each key is put where it is first mentioned. -/
theorem keys_foldl_merge (h : m.IsDistinct) :
    (ps.foldl merge m).keys = firstMentions ((m :: ps).flatMap Mapping.keys) := by
  rw [foldl_merge, keys_merge h, List.flatMap_cons, Mapping.keys, Mapping.keys, List.map_flatten,
    List.flatMap_def]
  rfl

theorem IsDistinct.find?_reverse (h : p.IsDistinct) : find? p.reverse key = find? p key := by
  induction p with
  | nil => rfl
  | cons e p ih =>
    obtain ⟨he, hp⟩ := List.pairwise_cons.1 h
    rw [List.reverse_cons, find?_append, ih hp, find?_cons, find?_cons]
    by_cases hkey : e.1.sameKey key
    · rw [if_pos hkey, if_pos hkey, find?_eq_none_iff.2, Option.none_or]
      exact fun x hx hsame => he x hx (Value.sameKey_trans hkey (Value.sameKey_comm.trans hsame))
    · rw [if_neg hkey, if_neg hkey]
      exact Option.or_none

/-- The patch decides on the keys that it has, and the mapping on the others. -/
theorem find?_merge_of_isDistinct (hp : p.IsDistinct) :
    find? (m.merge p) key = (find? p key).or (find? m key) := by
  rw [find?_merge, hp.find?_reverse]

/-- Of several patches the last one that has the key decides. -/
theorem find?_foldl_merge (hps : ∀ p ∈ ps, p.IsDistinct) :
    find? (ps.foldl merge m) key = (m :: ps).reverse.findSome? (find? · key) := by
  induction ps generalizing m with
  | nil => simp
  | cons p ps ih =>
    obtain ⟨hp, hps⟩ := List.forall_mem_cons.1 hps
    rw [List.foldl_cons, ih hps, List.reverse_cons, List.reverse_cons, List.reverse_cons,
      List.findSome?_append, List.findSome?_append, List.findSome?_append, Option.or_assoc]
    simp [find?_merge_of_isDistinct hp]

/-! ### Mappings as they are handed over -/

/-- The value is the mapping, or nothing in place of the empty one. -/
inductive Denotes : Value → Mapping → Prop
  | null : Denotes .null []
  | record {m : Mapping} : m.IsDistinct → Denotes (.record m) m

/-- What a state becomes with a patch. -/
def mergeValues (state patch : Value) : Except Misuse Mapping := do
  (← ofValue state).mergeValue patch

variable {a b c : Value}

theorem Denotes.isDistinct (h : Denotes a m) : m.IsDistinct := by
  cases h with
  | null => exact isDistinct_nil
  | record hm => exact hm

theorem Denotes.ofValue_eq (h : Denotes a m) : ofValue a = .ok m := by
  cases h with
  | null => rfl
  | record hm =>
    have hself : merge [] m = m := merge_of_isDistinct hm
    cases m with
    | nil => rfl
    | cons e m => exact congrArg Except.ok hself

theorem Denotes.mergeValue_eq (h : Denotes a p) : m.mergeValue a = .ok (m.merge p) := by
  cases h with
  | null => rfl
  | record => cases p <;> rfl

/-- A patch can always be merged. -/
theorem mergeValues_eq (ha : Denotes a m) (hb : Denotes b p) :
    mergeValues a b = .ok (m.merge p) := by
  rw [mergeValues, ha.ofValue_eq, ← hb.mergeValue_eq]
  rfl

theorem isDistinct_of_denotes {patches : List Value} (h : List.Forall₂ Denotes patches ps) :
    ∀ p ∈ ps, p.IsDistinct := by
  induction h with
  | nil => exact List.forall_mem_nil _
  | cons hpatch _ ih => exact List.forall_mem_cons.2 ⟨hpatch.isDistinct, ih⟩

theorem foldlM_mergeValues {patches : List Value} (hm : m.IsDistinct)
    (h : List.Forall₂ Denotes patches ps) :
    patches.foldlM (fun state patch => mergeValues (.record state) patch) m =
      .ok (ps.foldl merge m) := by
  induction h generalizing m with
  | nil => rfl
  | cons hpatch _ ih =>
    rw [List.foldlM_cons, mergeValues_eq (.record hm) hpatch]
    exact ih (hm.merge _)

/-- Merging never fails on mappings, and for all keys, also those of several kinds:

    * two patches can be merged one after the other, or with each other first;
    * the empty mapping changes nothing, neither as a patch nor as the state;
    * the keys are those of the state and then those of the patch that are not in the state, each in
      their order, and the value at a key is that of the patch, if it has the key;
    * over any patches, the value at a key is that of the last one that has it, and the keys are in
      the order of their first mention. -/
theorem merging_is_ordered_action (ha : Denotes a m) (hb : Denotes b n) (hc : Denotes c p) :
    (∃ r, (do mergeValues (.record (← mergeValues a b)) c) = .ok r ∧
      (do mergeValues a (.record (← mergeValues b c))) = .ok r) ∧
    (∀ e, Denotes e [] → mergeValues a e = .ok m ∧ mergeValues e a = .ok m) ∧
    (∃ r, mergeValues a b = .ok r ∧
      r.keys = m.keys ++ n.keys.filter (fun k => !m.contains k) ∧
      ∀ key, find? r key = (find? n key).or (find? m key)) ∧
    ∀ patches ps, List.Forall₂ Denotes patches ps →
      ∃ r, patches.foldlM (fun state patch => mergeValues (.record state) patch) m = .ok r ∧
        r.keys = firstMentions ((m :: ps).flatMap Mapping.keys) ∧
        ∀ key, find? r key = (m :: ps).reverse.findSome? (find? · key) := by
  have hm := ha.isDistinct
  have hn := hb.isDistinct
  refine ⟨⟨(m.merge n).merge p, ?_, ?_⟩, fun e he => ⟨mergeValues_eq ha he, ?_⟩,
    ⟨m.merge n, mergeValues_eq ha hb, keys_merge_of_isDistinct hm hn,
      fun _ => find?_merge_of_isDistinct hn⟩, fun patches ps hps => ?_⟩
  · rw [mergeValues_eq ha hb]
    exact mergeValues_eq (.record (hm.merge n)) hc
  · rw [mergeValues_eq hb hc, merge_assoc hn]
    exact mergeValues_eq ha (.record (hn.merge p))
  · rw [mergeValues_eq he ha, merge_of_isDistinct (m := []) hm, List.nil_append]
  · exact ⟨ps.foldl merge m, foldlM_mergeValues hm hps, keys_foldl_merge hm,
      fun _ => find?_foldl_merge (isDistinct_of_denotes hps)⟩

/-- One and truth are one key, which stays where it is and as it is spelled, but with the value of
    the patch, which is null; a patch in front of it that is nothing makes no difference. -/
theorem merging_into_numbered :
    let state : Value := .record [(.int 1, .text "x"), (.text "b", .int 2)]
    let patch : Value := .record [(.text "a", .int 0), (.bool true, .null)]
    ∃ m n, Denotes state m ∧ Denotes patch n ∧ Denotes .null [] ∧
      List.Forall₂ Denotes [.null, patch] [[], n] ∧
      (∃ r, (do mergeValues (.record (← mergeValues state patch)) .null) = .ok r ∧
        (do mergeValues state (.record (← mergeValues patch .null))) = .ok r) ∧
      mergeValues .null state = .ok m ∧
      (∃ r, mergeValues state patch = .ok r ∧ r.keys = [.int 1, .text "b", .text "a"] ∧
        find? r (.int 1) = some .null ∧ find? r (.text "b") = some (.int 2)) ∧
      ∃ r, [.null, patch].foldlM (fun state patch => mergeValues (.record state) patch) m = .ok r ∧
        r.keys = [.int 1, .text "b", .text "a"] ∧ find? r (.bool true) = some .null := by
  intro state patch
  have hone : (Value.int 1).sameKey (.bool true) := by decide +kernel
  have hone' : (Value.bool true).sameKey (.int 1) := by decide +kernel
  have hself : (Value.bool true).sameKey (.bool true) := by decide +kernel
  have htext : ∀ v s, v ≠ .text s → Value.sameKey v (.text s) = false := fun v s hv =>
    Bool.eq_false_iff.2 (mt Value.sameKey_text_iff.1 hv)
  have htext' : ∀ v s, v ≠ .text s → Value.sameKey (.text s) v = false := fun v s hv =>
    Value.sameKey_comm.trans (htext v s hv)
  have hs : Denotes state [(.int 1, .text "x"), (.text "b", .int 2)] :=
    .record (List.pairwise_pair.2 (by simp [htext]))
  have hp : Denotes patch [(.text "a", .int 0), (.bool true, .null)] :=
    .record (List.pairwise_pair.2 (by simp [htext']))
  have hpatches : List.Forall₂ Denotes [.null, patch] _ := .cons .null (.cons hp .nil)
  obtain ⟨hassoc, hempty, ⟨r, hr, hkeys, hfind⟩, hhistory⟩ :=
    merging_is_ordered_action hs hp .null
  obtain ⟨r', hr', hkeys', hfind'⟩ := hhistory _ _ hpatches
  refine ⟨_, _, hs, hp, .null, hpatches, hassoc, (hempty .null .null).2, ⟨r, hr, ?_, ?_, ?_⟩,
    r', hr', ?_, ?_⟩
  · rw [hkeys]
    simp [Mapping.keys, contains, htext, hone]
  · rw [hfind]
    simp [find?, htext', hone']
  · rw [hfind]
    simp [find?, htext]
  · rw [hkeys']
    simp [Mapping.keys, firstMentions, htext, htext', hone]
  · rw [hfind']
    simp [find?, htext', hself]

end Parley.Mapping

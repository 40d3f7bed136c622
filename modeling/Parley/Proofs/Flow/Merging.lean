import Parley.Proofs.Flow.Patching

/-!
# Merging into the shared state

A merge goes up to the owner of the session, which takes over the merged state and then
notes its keys in the log, from least to greatest. Keys of different kinds cannot be put in
order (`Mapping.IsOrderable`), and where they are mixed the note fails when the new state is
there already; so it does where a key cannot be written (`Mapping.HasWritableKeys`). So a merge
that fails leaves the state as it was or leaves the merged one, depending on where it fails
(`merge_replaces_state_or_is_refused`), and a merge is all or nothing where the merged keys can
be put in order and written, as texts can be.
-/

namespace Parley

namespace Mapping

variable {m es : Mapping}

/-- Any two keys can be put in order, if there are two at all. -/
def IsOrderable (m : Mapping) : Prop :=
  m.keys.length ≤ 1 ∨ ∀ a ∈ m.keys, ∀ b ∈ m.keys, (a.keyLess? b).isSome

theorem isOrderable_iff : m.IsOrderable ↔
    (m.keys.all fun a => m.keys.all fun b => m.keys.length ≤ 1 || (a.keyLess? b).isSome) := by
  simp only [IsOrderable, List.all_eq_true, Bool.or_eq_true, decide_eq_true_eq]
  refine ⟨fun h a ha b hb => h.imp_right fun h => h a ha b hb, fun h => ?_⟩
  by_cases hlen : m.keys.length ≤ 1
  · exact .inl hlen
  · exact .inr fun a ha b hb => (h a ha b hb).resolve_left hlen

instance (m : Mapping) : Decidable m.IsOrderable :=
  decidable_of_iff _ isOrderable_iff.symm

theorem IsOrderable.exists_sortedKeys (h : m.IsOrderable) : ∃ keys, m.sortedKeys = .ok keys := by
  rw [sortedKeys, if_pos (isOrderable_iff.1 h)]
  exact ⟨_, rfl⟩

theorem sortedKeys_of_not_isOrderable (h : ¬m.IsOrderable) : m.sortedKeys = .error .kind := by
  rw [sortedKeys, if_neg (mt isOrderable_iff.2 h)]

/-- Every key can be written. -/
def HasWritableKeys (m : Mapping) : Prop :=
  ∀ k ∈ m.keys, k.isWritable = true

instance (m : Mapping) : Decidable m.HasWritableKeys :=
  inferInstanceAs (Decidable (∀ k ∈ m.keys, k.isWritable = true))

theorem keysLiteral_of_not_isOrderable (h : ¬m.IsOrderable) : m.keysLiteral = .error .kind := by
  rw [keysLiteral, sortedKeys_of_not_isOrderable h]
  rfl

/-- A record can be merged into any state. -/
theorem mergeValue_record (m es : Mapping) : m.mergeValue (.record es) = .ok (m.merge es) := by
  cases es <;> rfl

/-- Texts can be put in order. -/
theorem IsTextual.isOrderable (h : m.IsTextual) : m.IsOrderable := by
  obtain ⟨keys, hkeys⟩ := h.exists_sortedKeys
  by_contra hn
  rw [sortedKeys_of_not_isOrderable hn] at hkeys
  cases hkeys

end Mapping

namespace Scene

variable {s : Scene} {a b o : Address} {key : String}

/-- The manager that takes the reports of an element holds it. -/
theorem superior_eq_manager (h : s.superior a = some (.manager b)) : ∃ key, a = key :: b := by
  unfold superior at h
  split at h
  · cases a with
    | nil => cases h
    | cons key a =>
      cases h
      exact ⟨key, rfl⟩
  · cases h
  · cases h

/-- What holds an element is a manager. -/
theorem manager?_of_cons (h : (s.manager? (key :: a)).isSome) : (s.manager? a).isSome := by
  unfold manager? at h ⊢
  rw [Element.at?_cons] at h
  cases hx : s.top.at? a with
  | none => simp [hx] at h
  | some x =>
    cases x with
    | leaf l => simp [hx, Element.children, Element.lookup] at h
    | manager m cs => rfl

/-- Where the reports of a manager end there is a manager, if no recorder takes them. -/
theorem exists_owner (ha : (s.manager? a).isSome) (ho : s.ownerOf a = .manager o) :
    ∃ m, s.manager? o = some m := by
  rw [← Option.isSome_iff_exists]
  -- Going up, the address gets shorter until nothing is above.
  induction a with
  | nil =>
    rw [ownerOf] at ho
    cases hsup : s.superior [] with
    | none =>
      rw [hsup] at ho
      cases ho
      exact ha
    | some up =>
      cases up with
      | recorder =>
        rw [hsup] at ho
        cases ho
      | manager b =>
        obtain ⟨key, hkey⟩ := superior_eq_manager hsup
        cases hkey
  | cons key a ih =>
    rw [ownerOf] at ho
    split at ho
    · exact ih (manager?_of_cons ha) ho
    · cases ho
    · cases ho
      exact ha

end Scene

open Act in
/-- Whatever the shared state and the patch are, and whichever manager they are handed to,
    with `m` the manager where its reports end:

    * a patch that is no mapping and cannot be made one is a misuse, and changes nothing;
    * any other patch is merged into the state of `m`, and nothing else is changed. Then the
      merge succeeds if the keys of the merged state can be put in order and written, and is a
      misuse if they cannot, with the merged state in place;
    * a record can be merged into any state, and if all keys of both are texts then those of
      the merged state can be put in order and written. -/
theorem merge_replaces_state_or_is_refused {s : Scene} {a o : Address} (patch : Value)
    (ha : (s.manager? a).isSome) (ho : s.ownerOf a = .manager o) :
    ∃ m, s.manager? o = some m ∧
      (∀ cause, m.state.mergeValue patch = .error cause →
        (merge (.manager a) patch).Yields s (.error (.misuse cause)) s) ∧
      (∀ merged, m.state.mergeValue patch = .ok merged →
        (merged.IsOrderable → merged.HasWritableKeys →
          (merge (.manager a) patch).Yields s (.ok ())
            (s.modifyManager o fun m => { m with state := merged })) ∧
        (merged.IsOrderable → ¬merged.HasWritableKeys →
          (merge (.manager a) patch).Yields s (.error (.misuse .digits))
            (s.modifyManager o fun m => { m with state := merged })) ∧
        (¬merged.IsOrderable → (merge (.manager a) patch).Yields s (.error (.misuse .kind))
          (s.modifyManager o fun m => { m with state := merged }))) ∧
      ∀ es, patch = .record es → m.state.mergeValue patch = .ok (m.state.merge es) ∧
        (m.state.IsTextual → Mapping.IsTextual es →
          (m.state.merge es).IsOrderable ∧ (m.state.merge es).HasWritableKeys) := by
  obtain ⟨m, hm⟩ := Scene.exists_owner ha ho
  have hstate : s.stateFor (.manager a) = m.state := by
    rw [Scene.stateFor, show s.owner (.manager a) = .manager o from ho]
    simp [hm]
  refine ⟨m, hm, fun cause hc => ?_, fun merged hmerged => ⟨fun h hw => ?_, fun h hw => ?_,
    fun h => ?_⟩, ?_⟩
  · exact merge_refused ho (hstate ▸ hc)
  · obtain ⟨keys, hkeys⟩ := h.exists_sortedKeys
    exact merge_merged ho (hstate ▸ hmerged) (Mapping.keysLiteral_of_isWritable hkeys hw)
  · obtain ⟨keys, hkeys⟩ := h.exists_sortedKeys
    exact merge_unlisted ho (hstate ▸ hmerged) (Mapping.keysLiteral_of_not_isWritable hkeys hw)
  · exact merge_unlisted ho (hstate ▸ hmerged) (Mapping.keysLiteral_of_not_isOrderable h)
  · rintro es rfl
    exact ⟨Mapping.mergeValue_record _ _, fun hs hes =>
      ⟨(hs.merge hes).isOrderable, (hs.merge hes).isWritable_of_mem⟩⟩

/-- A flow within a flow, attached, with a number among the keys of the shared state. -/
def Scene.numbered : Scene :=
  .ofElement (.manager { Manager.idle "main" "inner" none with state := [(.int 1, .text "x")] }
    [("inner", .manager { Manager.idle "inner" "ask" none with link := .holder }
      [("ask", .leaf (.idle "ask" { reply := fun _ _ => .ok .nothing } none none))])])

/-- A text as a key cannot be put in order with the number, but is merged all the same. -/
theorem merge_into_numbered : (Scene.numbered.manager? ["inner"]).isSome ∧
    Scene.numbered.ownerOf ["inner"] = .manager [] ∧
    (Act.merge (.manager ["inner"]) (.record [(.text "b", .int 2)])).Yields .numbered
      (.error (.misuse .kind)) (Scene.numbered.modifyManager [] fun m =>
        { m with state := [(.int 1, .text "x"), (.text "b", .int 2)] }) := by
  refine ⟨rfl, rfl, ?_⟩
  obtain ⟨m, hm, -, hmerged, -⟩ := merge_replaces_state_or_is_refused (s := .numbered)
    (a := ["inner"]) (o := []) (.record [(.text "b", .int 2)]) rfl rfl
  cases hm
  exact (hmerged _ rfl).2.2 (by decide +kernel)

/-- The merge fails, and the shared state is not the one before it. -/
theorem merge_fails_halfway : ∃ (cause : Fault) (after : Scene),
    Act.merge (.manager []) (.record [(.text "b", .int 2)]) .numbered = (.error cause, after) ∧
      (after.stateFor (.manager [])).length ≠ (Scene.numbered.stateFor (.manager [])).length :=
  ⟨_, _, rfl, by decide⟩

end Parley

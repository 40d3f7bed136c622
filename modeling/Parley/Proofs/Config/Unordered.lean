import Parley.Proofs.Config.Compile
import Parley.Proofs.Config.Reading
import Parley.Proofs.Value.Mapping

/-!
# Entries in any order

What is read of a record does not depend on the order of its entries, nor on the spelling of its
keys: whether it is in order, the names that it has, and what it has for each name
(`recordOf_agree`). The only names of which this is not true are those that the record has twice, as
a text and as octets (`SpelledTwice`): the two keys are different, but they are read as one name,
and the later entry counts.

Two values that are read need not have the same issues if they are not in order; they *agree* if
both are in order and the results are related, or neither is (`Checked.Agree`). Readings put
together from others agree if those do.
-/

namespace Parley.Config

open Parley.Mapping

/-! ### Checks that agree -/

namespace Checked

variable {α β γ δ : Type} {R : α → β → Prop} {S : γ → δ → Prop} {x : Checked α} {y : Checked β}

/-- Either both values are in order, and the results are related, or neither is. -/
inductive Agree (R : α → β → Prop) : Checked α → Checked β → Prop
  | ok {a : α} {b : β} (h : R a b) : Agree R (.ok a) (.ok b)
  | issues {found found' : List Issue} : Agree R (.issues found) (.issues found')

theorem Agree.refl (x : Checked α) : Agree Eq x x := by
  cases x with
  | ok => exact .ok rfl
  | issues => exact .issues

theorem agree_of_iff (hiff : (∃ a, x = .ok a) ↔ ∃ b, y = .ok b)
    (h : ∀ a b, x = .ok a → y = .ok b → R a b) : Agree R x y := by
  cases x with
  | ok a =>
    obtain ⟨b, rfl⟩ := hiff.1 ⟨a, rfl⟩
    exact .ok (h a b rfl rfl)
  | issues found =>
    cases y with
    | ok b => exact nomatch hiff.2 ⟨b, rfl⟩
    | issues => exact .issues

theorem Agree.map {f : α → γ} {g : β → δ} (h : Agree R x y) (hf : ∀ a b, R a b → S (f a) (g b)) :
    Agree S (f <$> x) (g <$> y) := by
  cases h with
  | ok h => exact .ok (hf _ _ h)
  | issues => exact .issues

theorem Agree.seq {f : Checked (α → γ)} {g : Checked (β → δ)}
    (hf : Agree (fun f g => ∀ a b, R a b → S (f a) (g b)) f g) (h : Agree R x y) :
    Agree S (f <*> x) (g <*> y) := by
  cases hf with
  | ok hf =>
    cases h with
    | ok h => exact .ok (hf _ _ h)
    | issues => exact .issues
  | issues => cases h <;> exact .issues

theorem Agree.bind {f : α → Checked γ} {g : β → Checked δ} (h : Agree R x y)
    (hf : ∀ a b, R a b → Agree S (f a) (g b)) : Agree S (x.bind f) (y.bind g) := by
  cases h with
  | ok h => exact hf _ _ h
  | issues => exact .issues

theorem Agree.inside (h : Agree R x y) (s : Step) : Agree R (x.inside s) (y.inside s) := by
  cases h with
  | ok h => exact .ok h
  | issues => exact .issues

end Checked

/-! ### Names and the keys that they are read from -/

section

variable {k k' : Value} {name : String} {m : Mapping} {e e' : Value × Value}

theorem text_eq_ok_iff : text k = .ok name ↔
    k = .text name ∨ ∃ octets, k = .bytes octets ∧ utf8? octets = some name := by
  cases k with
  | text s => simp [text]
  | bytes octets =>
    cases h : utf8? octets <;> simp [text, h, Checked.fail]
  | _ => simp [text, Checked.fail]

theorem utf8?_inj {a b : List UInt8} (ha : utf8? a = some name) (hb : utf8? b = some name) :
    a = b := by
  unfold utf8? String.fromUTF8? at ha hb
  split at ha
  · split at hb
    · have heq := Option.some.inj (ha.trans hb.symm)
      simpa [String.fromUTF8] using heq
    · cases hb
  · cases ha

/-- Keys that are the same are read as the same name, or neither is one. -/
theorem text_congr (h : k.sameKey k') : text k = text k' := by
  have h' := Value.sameKey_comm.trans h
  cases k with
  | text s => rw [Value.sameKey_text_iff.1 h']
  | bytes octets => rw [Value.sameKey_bytes_iff.1 h']
  | _ =>
    cases k' with
    | text s => cases Value.sameKey_text_iff.1 h
    | bytes octets => cases Value.sameKey_bytes_iff.1 h
    | _ => rfl

/-- A name that is there both as a text and as octets. -/
def SpelledTwice (m : Mapping) (name : String) : Prop :=
  ∃ octets, utf8? octets = some name ∧ (∃ v, (.text name, v) ∈ m) ∧ ∃ v, (.bytes octets, v) ∈ m

/-- Other names are read from one entry at most. -/
theorem eq_of_text (hm : m.IsDistinct) (hname : ¬SpelledTwice m name) (he : e ∈ m) (he' : e' ∈ m)
    (hk : text e.1 = .ok name) (hk' : text e'.1 = .ok name) : e = e' := by
  refine hm.eq_of_sameKey he he' ?_
  obtain ⟨k, v⟩ := e
  obtain ⟨k', v'⟩ := e'
  rcases text_eq_ok_iff.1 hk with rfl | ⟨octets, rfl, ho⟩ <;>
    rcases text_eq_ok_iff.1 hk' with rfl | ⟨octets', rfl, ho'⟩
  · exact Value.sameKey_text_iff.2 rfl
  · exact absurd ⟨octets', ho', ⟨v, he⟩, v', he'⟩ hname
  · exact absurd ⟨octets, ho, ⟨v', he'⟩, v, he⟩ hname
  · exact Value.sameKey_bytes_iff.2 (by rw [utf8?_inj ho ho'])

end

/-! ### Records -/

section

variable {α : Type} {read : Value → Checked α} {es es' : Mapping} {xs : List (String × α)}
  {name : String} {x : α}

/-- Each entry is one of another mapping too, though its key may be spelled in another way. -/
def Covers (es' es : Mapping) : Prop :=
  ∀ e ∈ es, ∃ e' ∈ es', text e'.1 = text e.1 ∧ e'.2 = e.2

/-- The same names have entries, and names that are spelled in one way have the same. -/
def SameEntries (twice : String → Prop) (xs ys : List (String × α)) : Prop :=
  ∀ name, (lookup name xs).isSome = (lookup name ys).isSome ∧
    (¬twice name → lookup name xs = lookup name ys)

theorem lookup_isSome_iff : (lookup name xs).isSome ↔ name ∈ xs.map Prod.fst := by
  simp [lookup, List.find?_isSome]

theorem mem_map_fst_foldl_put {acc : List (String × α)} :
    name ∈ (xs.foldl (fun acc e => put e.1 e.2 acc) acc).map Prod.fst ↔
      name ∈ xs.map Prod.fst ∨ name ∈ acc.map Prod.fst := by
  induction xs generalizing acc with
  | nil => simp
  | cons e xs ih =>
    rw [List.foldl_cons, ih, map_fst_put, List.map_cons, List.mem_cons]
    split <;> grind

/-- A record is in order exactly if each of its entries is. -/
theorem exists_recordOf_ok_iff : (∃ xs, recordOf read (.record es) = .ok xs) ↔
    ∀ e ∈ es, ∃ name x, text e.1 = .ok name ∧ read e.2 = .ok x := by
  have hentry : ∀ e : Value × Value, (∃ y, readEntry read e = .ok y) ↔
      ∃ name x, text e.1 = .ok name ∧ read e.2 = .ok x := fun e =>
    ⟨fun ⟨y, hy⟩ => ⟨y.1, y.2, readEntry_eq_ok_iff.1 hy⟩,
      fun ⟨name, x, hx⟩ => ⟨(name, x), readEntry_eq_ok_iff.2 hx⟩⟩
  simp only [← hentry]
  rw [← Checked.exists_each_ok_iff, recordOf_record]
  constructor
  · rintro ⟨xs, h⟩
    obtain ⟨ys, hys, -⟩ := Checked.map_ok h
    exact ⟨ys, hys⟩
  · rintro ⟨ys, hys⟩
    rw [hys]
    exact ⟨_, rfl⟩

/-- The names that are there are those that are read from the keys. -/
theorem lookup_recordOf_isSome_iff (h : recordOf read (.record es) = .ok xs) :
    (lookup name xs).isSome ↔ ∃ e ∈ es, text e.1 = .ok name := by
  rw [recordOf_record] at h
  obtain ⟨ys, hys, rfl⟩ := Checked.map_ok h
  rw [lookup_isSome_iff, mem_map_fst_foldl_put, List.map_nil, or_iff_left List.not_mem_nil]
  constructor
  · intro hname
    obtain ⟨y, hy, rfl⟩ := List.mem_map.1 hname
    obtain ⟨e, he, hread⟩ := Checked.each_ok hys y hy
    exact ⟨e, he, (readEntry_eq_ok_iff.1 hread).1⟩
  · rintro ⟨e, he, hname⟩
    have hmem : readEntry read e ∈ ys.map .ok := by
      rw [← Checked.each_eq_ok_iff.1 hys]
      exact List.mem_map_of_mem he
    obtain ⟨y, hy, hread⟩ := List.mem_map.1 hmem
    have hkey := (readEntry_eq_ok_iff.1 hread.symm).1
    rw [hname] at hkey
    cases hkey
    exact List.mem_map_of_mem hy

theorem exists_of_lookup_recordOf (h : recordOf read (.record es) = .ok xs)
    (hx : lookup name xs = some x) : ∃ e ∈ es, text e.1 = .ok name ∧ read e.2 = .ok x :=
  exists_of_mem_recordOf h (mem_of_lookup hx)

/-- Records with the same entries, in any order, have the same names, and the same for each name
    that is spelled in one way. -/
theorem recordOf_agree (h : Covers es es') (h' : Covers es' es) (hm : es'.IsDistinct) :
    Checked.Agree (SameEntries (SpelledTwice es')) (recordOf read (.record es))
      (recordOf read (.record es')) := by
  refine Checked.agree_of_iff ?_ fun xs ys hxs hys name => ?_
  · rw [exists_recordOf_ok_iff, exists_recordOf_ok_iff]
    constructor
    · intro hall e' he'
      obtain ⟨e, he, hkey, hvalue⟩ := h e' he'
      rw [← hkey, ← hvalue]
      exact hall e he
    · intro hall e he
      obtain ⟨e', he', hkey, hvalue⟩ := h' e he
      rw [← hkey, ← hvalue]
      exact hall e' he'
  -- The names are the same on both sides, since the keys are.
  have hsome : (lookup name xs).isSome = (lookup name ys).isSome := by
    rw [Bool.eq_iff_iff, lookup_recordOf_isSome_iff hxs, lookup_recordOf_isSome_iff hys]
    constructor
    · rintro ⟨e, he, hk⟩
      obtain ⟨e', he', hkey, -⟩ := h' e he
      exact ⟨e', he', hkey.trans hk⟩
    · rintro ⟨e', he', hk⟩
      obtain ⟨e, he, hkey, -⟩ := h e' he'
      exact ⟨e, he, hkey.trans hk⟩
  refine ⟨hsome, fun hname => ?_⟩
  cases hx : lookup name xs with
  | none =>
    rw [hx] at hsome
    exact (Option.not_isSome_iff_eq_none.1 (by rw [← hsome]; simp)).symm
  | some x =>
    rw [hx] at hsome
    obtain ⟨y, hy⟩ := Option.isSome_iff_exists.1 hsome.symm
    obtain ⟨e, he, hk, hread⟩ := exists_of_lookup_recordOf hxs hx
    obtain ⟨e', he', hk', hread'⟩ := exists_of_lookup_recordOf hys hy
    -- The entry that covers the one of `xs` has the same name, so it is the one of `ys`.
    obtain ⟨e'', he'', hkey, hvalue⟩ := h' e he
    cases eq_of_text hm hname he' he'' hk' (hkey.trans hk)
    rw [hvalue, hread] at hread'
    cases hread'
    exact hy.symm

end

end Parley.Config

import Parley.Value.Text

/-!
# Mappings

The shared state of a conversation and the patches merged into it: entries in
the order in which their keys were first given, with pairwise different keys.

A merge overwrites the entries whose keys the patch has, in their places, and
appends the others (`Mapping.merge`); no entry is ever removed. A decision may
also hand over a list of pairs or nothing in place of a mapping
(`Mapping.ofValue`).
-/

namespace Parley

/-- Entries in order of their keys' first mention. -/
abbrev Mapping := List (Value × Value)

namespace Mapping

/-- The value at a key. -/
def find? (m : Mapping) (key : Value) : Option Value :=
  (List.find? (fun e => e.1.sameKey key) m).map Prod.snd

/-- The value at a textual key, null where there is none. -/
def get (m : Mapping) (key : String) : Value :=
  (m.find? (.text key)).getD .null

def contains (m : Mapping) (key : Value) : Bool :=
  m.any fun e => e.1.sameKey key

/-- The keys, in order. -/
def keys (m : Mapping) : List Value :=
  m.map Prod.fst

/-- All values can be written, whatever their keys. -/
def isWritable (m : Mapping) : Bool :=
  m.all fun e => e.2.isWritable

/-- Sets the value at a key: in its place if the key is there, else at the end. -/
def insert (m : Mapping) (key value : Value) : Mapping :=
  match m with
  | [] => [(key, value)]
  | e :: rest =>
    if e.1.sameKey key then (e.1, value) :: rest else e :: insert rest key value

/-- Inserts the entries of a patch one after the other. -/
def merge (m patch : Mapping) : Mapping :=
  patch.foldl (fun acc e => acc.insert e.1 e.2) m

@[simp] theorem merge_nil (m : Mapping) : m.merge [] = m := rfl

@[simp] theorem merge_cons (m : Mapping) (e : Value × Value) (patch : Mapping) :
    m.merge (e :: patch) = (m.insert e.1 e.2).merge patch := rfl

theorem merge_append (m p q : Mapping) : m.merge (p ++ q) = (m.merge p).merge q := by
  simp [merge, List.foldl_append]

section

variable {m : Mapping} {key key' : String} {value : Value}

theorem find?_insert : (m.insert (.text key) value).find? (.text key') =
    if key = key' then some value else m.find? (.text key') := by
  induction m with
  | nil => by_cases h : key = key' <;> simp [insert, find?, h]
  | cons e m ih =>
    unfold insert
    by_cases he : e.1.sameKey (.text key)
    · have hkey := Value.sameKey_text_iff.1 he
      rw [if_pos he]
      by_cases h : key = key' <;> simp [find?, hkey, h]
    · rw [if_neg he]
      have ih' := ih
      unfold find? at ih' ⊢
      rw [List.find?_cons, List.find?_cons]
      cases hk : e.1.sameKey (.text key') with
      | false => exact ih'
      | true =>
        rw [if_neg]
        rintro rfl
        exact he hk

@[simp] theorem get_insert_self : (m.insert (.text key) value).get key = value := by
  rw [get, find?_insert, if_pos rfl]
  rfl

theorem get_insert_of_ne (h : key ≠ key') :
    (m.insert (.text key) value).get key' = m.get key' := by
  rw [get, find?_insert, if_neg h, get]

end

/-- The items of a collection that can be gone through one by one. -/
def items? : Value → Option (List Value)
  | .list items | .tuple items | .set items => some items
  | .text s => some (s.toList.map fun c => .text c.toString)
  | .record entries => some (entries.map Prod.fst)
  | .bytes octets => some (octets.map fun o => .int o.toNat)
  | _ => none

/-- A collection of two items, the first of which can be a key, as an entry; `i` is
    its place among others. -/
def entry (i : Nat) (v : Value) : Except Misuse (Value × Value) :=
  match items? v with
  | none => .error .kind
  | some [key, value] => if key.isKey then .ok (key, value) else .error .kind
  | some items => .error (.form
      s!"dictionary update sequence element #{i} has length {items.length}; 2 is required")

/-- The entries that a value supplies to a mapping: those of a record, or a
    collection of pairs. -/
def entries (v : Value) : Except Misuse Mapping :=
  match v with
  | .record es => .ok es
  | _ =>
    match items? v with
    | none => .error .kind
    | some items => items.zipIdx.mapM fun e => entry e.2 e.1

/-- The mapping that a value describes, later entries overwriting earlier
    ones; anything empty, zero or null describes the empty one. -/
def ofValue (v : Value) : Except Misuse Mapping :=
  if v.isTruthy then (entries v).map (merge []) else .ok []

/-- Merges what a value supplies. -/
def mergeValue (m : Mapping) (patch : Value) : Except Misuse Mapping :=
  if patch.isTruthy then (entries patch).map m.merge else .ok m

/-! ### The order of keys -/

/-- The keys from least to greatest, if all of them can be put in order. -/
def sortedKeys (m : Mapping) : Except Misuse (List Value) :=
  let keys := m.keys
  if keys.all fun a => keys.all fun b => keys.length ≤ 1 || (a.keyLess? b).isSome then
    .ok (keys.mergeSort fun a b => !((b.keyLess? a).getD false))
  else .error .kind

/-- The list of the keys in that order, as it is written for the log. -/
def keysLiteral (m : Mapping) : Except Misuse String := do
  let keys ← m.sortedKeys
  if m.keys.all Value.isWritable then pure (Value.list keys).quoted else throw .digits

end Mapping

end Parley

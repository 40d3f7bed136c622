import Parley.Proofs.Conversation.Dialogue
import Parley.Proofs.Flow.Merging

/-!
# States whose keys cannot be put in order

A key that is no text cannot be compared with one that is. So where the initial state has such a
key, the first merge of a text fails (`Mapping.not_isOrderable_insert`), and the conversation is
stuck from then on. If a flow begins with a question whose answer is stored under a textual key
(`Element.StoresFirst`), this is the first input already (`Conversation.stuck_of_not_isTextual`).
-/

namespace Parley

open Element

namespace Mapping

variable {m : Mapping} {key : String} {v : Value}

theorem isNone_keyLess?_text {k : Value} (h : ∀ s, k ≠ .text s) (key : String) :
    k.keyLess? (.text key) = none := by
  unfold Value.keyLess?
  cases k with
  | text s => exact absurd rfl (h s)
  | tuple items =>
    rw [Value.keyForm?, Value.keyForm?]
    cases Value.keyForms? items <;> rfl
  | _ => rfl

/-- A textual key cannot be put in order with the others, unless all of them are texts. -/
theorem not_isOrderable_insert (h : ¬m.IsTextual) : ¬(m.insert (.text key) v).IsOrderable := by
  simp only [IsTextual, not_forall] at h
  obtain ⟨e, he, hkey⟩ := h
  have hother : e.1 ∈ (m.insert (.text key) v).keys :=
    (keys_prefix_insert m _ _).subset (List.mem_map_of_mem he)
  have hne : ∀ s, e.1 ≠ .text s := fun s hs => hkey ⟨s, hs⟩
  rintro (hlen | hall)
  · -- There are two keys at least, this one and the other.
    match hkeys : (m.insert (.text key) v).keys with
    | [] => simp [hkeys] at hother
    | [k] =>
      have htext : .text key ∈ (m.insert (.text key) v).keys := mem_keys_insert
      rw [hkeys, List.mem_singleton] at hother htext
      exact hne key (hother.trans htext.symm)
    | _ :: _ :: _ => simp [hkeys] at hlen
  · have hsome := hall _ hother _ mem_keys_insert
    rw [isNone_keyLess?_text hne] at hsome
    cases hsome

end Mapping

/-- The flow begins at a leaf that asks, and that stores what it is told under a textual key. -/
structure Element.StoresFirst (e : Element) (a : Address) : Prop where
  receptive : e.session.IsReceptive
  starts : e.StartsAt [] a
  nested : a ≠ []
  exists_leaf : ∃ d x q target key, e.HasLeaf a d (some x) (some ⟨some q, .identity⟩) ∧
    ∀ v state, d.decision (some v) state = .ok (.goto (.text target) [(.text key, v)])

namespace Element.StoresFirst

variable {e : Element} {a : Address} {state : Mapping}

/-- It waits for the answer, unless what it is to show first fails. -/
theorem begins (h : e.StoresFirst a) (state : Mapping) : ∃ r : Response Address,
    e.Responds 1 (.execute a) state r ∧ r.state = state ∧
      (r.standing = .waiting a ∨ ∃ cause, r.standing = .failed cause) := by
  obtain ⟨d, x, q, target, key, ⟨l, hl, -, ho, hq⟩, -⟩ := h.exists_leaf
  cases hx : x.transform state x.payload with
  | error cause =>
    have hshows : Shows (e.sessionIn state) l.output (.error cause) [] := by
      rw [ho]
      exact .failed hx
    exact ⟨⟨_, _, .failed cause⟩, ⟨_, .unshown hl hshows, le_rfl, rfl, rfl, rfl⟩, rfl,
      .inr ⟨cause, rfl⟩⟩
  | ok shown =>
    have hshows : Shows (e.sessionIn state) l.output (.ok ()) (shown.toList.map .output) := by
      rw [ho]
      exact shows_of_hears hx (hears_of_isReceptive h.receptive _)
    have hasks : Asks (e.sessionIn state) ⟨some q, .identity⟩ (.ok ()) [.expectation q] true :=
      .asked rfl (Manager.IsReceptive.reception h.receptive _)
    exact ⟨⟨_, _, .waiting a⟩, ⟨_, .asked hl hshows hq hasks, le_rfl, rfl, rfl, rfl⟩, rfl, .inl rfl⟩

/-- What it is told cannot be stored. -/
theorem fails (h : e.StoresFirst a) (hs : ¬state.IsTextual) (v : Value) :
    ∃ state', e.Responds 0 (.input a v) state ⟨[], state', .failed (.misuse .kind)⟩ := by
  obtain ⟨d, x, q, target, k, ⟨l, hl, rfl, -, -⟩, hd⟩ := h.exists_leaf
  obtain ⟨key, p, rfl⟩ := List.exists_cons_of_ne_nil h.nested
  have hmerges : Merges state (.record [(.text k, v)]) (.error (.misuse .kind))
      (state.insert (.text k) v) :=
    .unlisted rfl (Mapping.mergeValue_record _ _)
      (Mapping.keysLiteral_of_not_isOrderable (Mapping.not_isOrderable_insert hs))
  exact ⟨_, _, .halted (.unmerged hl (hd v state) hmerges) .failed, le_rfl, rfl, rfl, rfl⟩

end Element.StoresFirst

namespace Conversation

variable {c c₀ : Conversation} {a : Address} {k : Nat} {v : Value}

/-- A conversation that waits for nothing refuses every input. -/
theorem foldl_deliver_of_not_awaiting (h : c.isAwaiting = false) (k : Nat) (vs : List Value) :
    (vs.map (.deliver k)).foldl enter c = c := by
  induction vs with
  | nil => rfl
  | cons v vs ih =>
    have hrefused : c.admits (.deliver k v) = false := by simp [admits, accepts, h]
    rw [List.map_cons, List.foldl_cons, Entry.enter_of_refused hrefused, ih]

/-- Once it has been started, a conversation over such a flow waits for the first answer, or for
    none at all. -/
theorem start_of_storesFirst (h₀ : c₀.IsFresh) (hf : c₀.frontEnd = some .recording)
    (hb : c₀.opened.StoresFirst a) (hlimit : tasksFor c₀.opened.height 1 ≤ k + 1) :
    (c₀.enter (.start k)).state = c₀.initial ∧
      ((c₀.enter (.start k)).admits (.deliver k v) ∧ (c₀.enter (.start k)).scene.top.WaitsAt a ∨
        (c₀.enter (.start k)).isAwaiting = false) := by
  have hadmits : c₀.admits (.start k) = true := by simp [admits, h₀.started]
  have hnothing : ∃ xs : List Entry, c₀ = xs.foldl enter c₀ := ⟨[], rfl⟩
  obtain ⟨⟨events, state, standing⟩, hbegins, rfl, hstanding⟩ := hb.begins c₀.initial
  have hresponds : ∀ t, (Entry.start k).Reaches c₀ t → c₀.opened.Responds 1 t
      (c₀.flowFor (.start k)).session.state
      ((⟨events, c₀.initial, standing⟩ : Response Address).locate fun a _ => a) := by
    intro t hreach
    cases hreach with
    | start hstarts =>
      obtain rfl := hstarts.unique hb.starts
      rw [flowFor, state_opened h₀]
      rcases hstanding with rfl | ⟨cause, rfl⟩ <;> exact hbegins
  obtain ⟨-, hlooks, hstarted, hwaits⟩ :=
    turn_of_responds h₀ hf hnothing hadmits hlimit hresponds
  refine ⟨hlooks.state, ?_⟩
  rcases hstanding with rfl | ⟨cause, rfl⟩
  · refine .inl ⟨?_, hwaits a rfl⟩
    simp [admits, accepts, hstarted, hlooks.isAwaiting, hlooks.isFinished, Standing.isWaiting,
      Standing.isOver]
  · exact .inr hlooks.isAwaiting

/-- With a key in the initial state that is no text, a conversation over such a flow does not wait
    for a second input. -/
theorem stuck_of_not_isTextual (h₀ : c₀.IsFresh) (hf : c₀.frontEnd = some .recording)
    (hb : c₀.opened.StoresFirst a) (hs : ¬c₀.initial.IsTextual)
    (hlimit : tasksFor c₀.opened.height 1 ≤ k + 1) (v : Value) (vs : List Value) :
    ((Entry.start k :: (v :: vs).map (.deliver k)).foldl enter c₀).isAwaiting = false := by
  rcases start_of_storesFirst (v := v) h₀ hf hb hlimit with ⟨hstate, ⟨hadmits, hwait⟩ | hnot⟩
  case inr =>
    rw [List.foldl_cons, foldl_deliver_of_not_awaiting hnot]
    exact hnot
  obtain ⟨state', hfails⟩ := hb.fails hs v
  have hstarted : ∃ xs : List Entry, c₀.enter (.start k) = xs.foldl enter c₀ := ⟨[.start k], rfl⟩
  have hresponds : ∀ t, (Entry.deliver k v).Reaches (c₀.enter (.start k)) t →
      c₀.opened.Responds 1 t ((c₀.enter (.start k)).flowFor (.deliver k v)).session.state
        ((⟨[], state', .failed (.misuse .kind)⟩ : Response Address).locate fun a _ => a) := by
    intro t hreach
    cases hreach with
    | deliver hact hl =>
      obtain ⟨l', hl', -⟩ := hwait.asker
      obtain rfl := hact.eq_of_leaf hl hwait.active hl'
      rw [flowFor, ← state_eq hwait.wired, hstate]
      exact hfails.mono (Nat.zero_le 1)
  obtain ⟨-, hlooks, -, -⟩ := turn_of_responds h₀ hf hstarted hadmits hlimit hresponds
  -- The first input has failed, and nothing is taken any more.
  rw [List.map_cons, List.foldl_cons, List.foldl_cons,
    foldl_deliver_of_not_awaiting hlooks.isAwaiting]
  exact hlooks.isAwaiting

end Conversation

end Parley

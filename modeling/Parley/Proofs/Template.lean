import Mathlib.Algebra.Group.Even
import Mathlib.Data.List.Basic
import Mathlib.Data.List.DropRight
import Parley.Template

/-!
# Rendering templates

What a template becomes piece by piece. The scan goes from left to right and replaces each
placeholder by its value once, so a text can be cut in two before a dollar sign: no placeholder
goes on across it, unless it is the second of a pair (`fill_append_of_even`).

* `fill_append`: characters other than the dollar sign stay as they are;
* `fill_braced`: a name in braces is replaced by its value, or stays if it has none;
* `fill_congr`: only the values of the names that are written in the text matter.
-/

namespace Parley.Template

variable {value? value?' : String → Option String} {key cs before after : List Char}
  {s value : String}

/-- The characters are those of one name. -/
def isName : List Char → Bool
  | [] => false
  | c :: cs => isNameStart c && cs.all isNamePart

/-- A placeholder of this name is written in a text: the name in braces after a dollar sign, or
    the name after a dollar sign and no further character of a name. -/
inductive Mentions (key : List Char) : List Char → Prop
  | bare (before after : List Char) (h : ∀ c ∈ after.head?, isNamePart c = false) :
    Mentions key (before ++ '$' :: (key ++ after))
  | braced (before after : List Char) : Mentions key (before ++ '$' :: '{' :: (key ++ '}' :: after))

/-! ### Names -/

theorem takeWhile_append_cons {p : Char → Bool} {c : Char} (h : p c = false) :
    (before ++ c :: after).takeWhile p = before.takeWhile p := by
  induction before with
  | nil => exact List.takeWhile_cons_of_neg (by simp [h])
  | cons d before ih => simp only [List.cons_append, List.takeWhile_cons, ih]

/-- A name ends at the first character that no name has. -/
theorem name_append_cons {c : Char} (hstart : isNameStart c = false)
    (hpart : isNamePart c = false) :
    name (cs ++ c :: after) = name cs := by
  cases cs with
  | nil => exact if_neg (by simp [hstart])
  | cons d cs => rw [List.cons_append, name, name, takeWhile_append_cons hpart]

theorem name_eq_self (h : isName key) : name key = key := by
  cases key with
  | nil => cases h
  | cons c cs =>
    rw [isName, Bool.and_eq_true] at h
    rw [name, if_pos h.1, List.takeWhile_eq_self_iff.2 (List.all_eq_true.1 h.2)]

/-- What characters begin with is a name, with no character of a name after it. -/
theorem isName_name (h : name cs ≠ []) :
    isName (name cs) ∧
      ∃ after, cs = name cs ++ after ∧ ∀ c ∈ after.head?, isNamePart c = false := by
  cases cs with
  | nil => exact absurd rfl h
  | cons c cs =>
    rw [name] at h ⊢
    split at h
    · rename_i hc
      rw [if_pos hc]
      refine ⟨by rw [isName, hc, List.all_takeWhile]; rfl, cs.dropWhile isNamePart, ?_, ?_⟩
      · rw [List.cons_append, List.takeWhile_append_dropWhile]
      · intro d hd
        have := List.head?_dropWhile_not isNamePart cs
        rw [Option.mem_def.1 hd] at this
        simpa using this
    · exact absurd rfl h

/-! ### Placeholders -/

theorem placeholder_of_ne {c : Char} (hd : c ≠ '$') (hb : c ≠ '{') : placeholder (c :: cs) =
    if name (c :: cs) ≠ [] then .named (name (c :: cs)) false else .stray := by
  rw [placeholder]
  · rintro cs' ⟨⟩
    exact hd rfl
  · rintro cs' ⟨⟩
    exact hb rfl

theorem name_length_le : (name cs).length ≤ cs.length := by
  by_cases h : name cs = []
  · rw [h]
    exact Nat.zero_le _
  · obtain ⟨-, after, hcs, -⟩ := isName_name h
    exact List.IsPrefix.length_le ⟨after, hcs.symm⟩

/-- A dollar sign ends any placeholder before it, but a single dollar sign. -/
theorem placeholder_append (h : before ≠ []) :
    placeholder (before ++ '$' :: cs) = placeholder before := by
  have hname : ∀ l, name (l ++ '$' :: cs) = name l := fun l =>
    name_append_cons (by decide) (by decide)
  obtain ⟨c, before, rfl⟩ := List.exists_cons_of_ne_nil h
  by_cases hd : c = '$'
  · rw [hd]
    rfl
  by_cases hb : c = '{'
  · -- The brace that would close the name is found before the dollar sign or not at all.
    have hclose : (before ++ '$' :: cs)[(name before).length]? = some '}' ↔
        before[(name before).length]? = some '}' := by
      rw [List.getElem?_append]
      split
      · rfl
      · have hlen : (name before).length = before.length :=
          le_antisymm name_length_le (not_lt.1 ‹_›)
        simp [hlen]
    rw [hb, List.cons_append, placeholder, placeholder]
    simp only [hname, hclose]
  · rw [List.cons_append, placeholder_of_ne hd hb, placeholder_of_ne hd hb, ← List.cons_append,
      hname]

/-- What a placeholder is, and the characters that it is made of. -/
theorem placeholder_cases (cs : List Char) :
    (∃ after, cs = '$' :: after ∧ placeholder cs = .dollar) ∨
    (∃ key after, isName key ∧ cs = '{' :: (key ++ '}' :: after) ∧
      placeholder cs = .named key true) ∨
    (∃ key after, isName key ∧ cs = key ++ after ∧ (∀ c ∈ after.head?, isNamePart c = false) ∧
      placeholder cs = .named key false) ∨
    placeholder cs = .stray := by
  rcases cs with - | ⟨c, cs⟩
  · exact .inr (.inr (.inr rfl))
  by_cases hd : c = '$'
  · exact .inl ⟨cs, by rw [hd], by rw [hd]; rfl⟩
  by_cases hb : c = '{'
  · rw [hb, placeholder]
    by_cases h : name cs ≠ [] ∧ cs[(name cs).length]? = some '}'
    · obtain ⟨hname, after, hcs, -⟩ := isName_name h.1
      have hclose := h.2
      rw [hcs, List.getElem?_append_right (by rw [← hcs])] at hclose
      rw [← hcs, Nat.sub_self, ← List.head?_eq_getElem?] at hclose
      obtain ⟨rest, rfl⟩ := List.head?_eq_some_iff.1 hclose
      exact .inr (.inl ⟨name cs, rest, hname, by rw [← hcs], if_pos h⟩)
    · exact .inr (.inr (.inr (if_neg h)))
  · rw [placeholder_of_ne hd hb]
    by_cases h : name (c :: cs) ≠ []
    · obtain ⟨hname, after, hcs, hafter⟩ := isName_name h
      exact .inr (.inr (.inl ⟨_, after, hname, hcs, hafter, if_pos h⟩))
    · exact .inr (.inr (.inr (if_neg h)))

theorem placeholder_length_le : (placeholder cs).length ≤ cs.length := by
  rcases placeholder_cases cs with ⟨after, rfl, h⟩ | ⟨key, after, -, rfl, h⟩ |
    ⟨key, after, -, rfl, -, h⟩ | h <;> rw [h]
  · simp [Placeholder.length]
  · simp [Placeholder.length]
  · simp [Placeholder.length]
  · exact Nat.zero_le _

theorem mentions_of_placeholder {braced : Bool} (h : placeholder cs = .named key braced) :
    isName key ∧ Mentions key ('$' :: cs) := by
  rcases placeholder_cases cs with ⟨after, -, h'⟩ | ⟨key', after, hname, rfl, h'⟩ |
    ⟨key', after, hname, rfl, hafter, h'⟩ | h' <;> cases h.symm.trans h'
  · exact ⟨hname, .braced [] after⟩
  · exact ⟨hname, .bare [] after hafter⟩

theorem Mentions.cons (c : Char) (h : Mentions key cs) : Mentions key (c :: cs) := by
  cases h with
  | bare before after h => exact .bare (c :: before) after h
  | braced before after => exact .braced (c :: before) after

/-! ### Filling -/

theorem fill_dollar : fill value? ('$' :: cs) =
    (placeholder cs).replacement value? (cs.take (placeholder cs).length) ++
      fill value? (cs.drop (placeholder cs).length) := by
  rw [fill, fillAfter, if_pos rfl]
  simp only [fillAfter_eq]

theorem fill_cons {c : Char} (h : c ≠ '$') : fill value? (c :: cs) = c :: fill value? cs :=
  if_neg h

/-- Where there is no dollar sign, nothing is replaced. -/
theorem fill_append (h : '$' ∉ before) :
    fill value? (before ++ cs) = before ++ fill value? cs := by
  induction before with
  | nil => rfl
  | cons c before ih =>
    rw [List.mem_cons, not_or] at h
    rw [List.cons_append, fill_cons (Ne.symm h.1), ih h.2, List.cons_append]

theorem fill_eq_self (h : '$' ∉ cs) : fill value? cs = cs := by
  conv_lhs => rw [← List.append_nil cs]
  exact (fill_append h).trans (List.append_nil cs)

/-- A text that does not end in a dollar sign can be filled apart from what follows it, if that
    begins with a dollar sign. -/
theorem fill_append_of_getLast? (hlast : before.getLast? ≠ some '$')
    (hafter : ∀ c ∈ after.head?, c = '$') :
    fill value? (before ++ after) = fill value? before ++ fill value? after := by
  rcases after with - | ⟨c, after⟩
  · rw [List.append_nil]
    exact (List.append_nil _).symm
  obtain rfl : c = '$' := hafter c rfl
  -- The recursion of `fillAfter` goes through the characters one by one, so the induction
  -- carries how many of them a placeholder has already taken.
  suffices h : ∀ skip ≤ before.length, fillAfter value? skip (before ++ '$' :: after) =
      fillAfter value? skip before ++ fill value? ('$' :: after) from h 0 (Nat.zero_le _)
  induction before with
  | nil =>
    intro skip hskip
    rw [Nat.le_zero.1 hskip]
    rfl
  | cons c before ih =>
    have ih := ih (fun h => hlast (by rw [List.getLast?_cons, h]; rfl))
    intro skip hskip
    cases skip with
    | succ skip => exact ih skip (Nat.le_of_succ_le_succ hskip)
    | zero =>
      by_cases hc : c = '$'
      · have hne : before ≠ [] := by
          rintro rfl
          exact hlast (by rw [hc]; rfl)
        rw [List.cons_append, fillAfter, if_pos hc, fillAfter, if_pos hc, placeholder_append hne]
        dsimp only
        rw [List.take_append_of_le_length placeholder_length_le, ih _ placeholder_length_le,
          List.append_assoc]
      · rw [List.cons_append, fillAfter, if_neg hc, fillAfter, if_neg hc, ih 0 (Nat.zero_le _),
          List.cons_append]

/-- Two dollar signs make one. -/
theorem fill_replicate (n : Nat) : fill value? (List.replicate (n + n) '$' ++ cs) =
    List.replicate n '$' ++ fill value? cs := by
  induction n with
  | zero => rfl
  | succ n ih =>
    have hstep : fill value? ('$' :: '$' :: (List.replicate (n + n) '$' ++ cs)) =
      '$' :: fill value? (List.replicate (n + n) '$' ++ cs) := fill_dollar
    rw [show n + 1 + (n + 1) = n + n + 1 + 1 by omega, List.replicate_succ, List.replicate_succ,
      List.cons_append, List.cons_append, hstep, ih, List.replicate_succ, List.cons_append]

/-- A text can be filled apart from what follows it, if an even number of dollar signs ends it and
    one begins what follows. -/
theorem fill_append_of_even (heven : Even (before.rtakeWhile (· = '$')).length) :
    fill value? (before ++ '$' :: after) = fill value? before ++ fill value? ('$' :: after) := by
  obtain ⟨n, hn⟩ := heven
  have hrun : before.rtakeWhile (· = '$') = List.replicate (n + n) '$' :=
    List.eq_replicate_iff.2 ⟨hn, fun c hc => by simpa using List.mem_rtakeWhile_imp hc⟩
  -- Before the dollar signs at the end there is none.
  have hlast : (before.rdropWhile (· = '$')).getLast? ≠ some '$' := fun h => by
    have hne : before.rdropWhile (· = '$') ≠ [] := by
      intro hnil
      rw [hnil] at h
      cases h
    rw [List.getLast?_eq_some_getLast hne, Option.some.injEq] at h
    exact List.rdropWhile_last_not _ _ hne (decide_eq_true h)
  have hsplit : before = before.rdropWhile (· = '$') ++ List.replicate (n + n) '$' :=
    hrun ▸ List.rdropWhile_append_rtakeWhile.symm
  generalize before.rdropWhile (· = '$') = start at hlast hsplit
  have hdollars : ∀ m (cs : List Char), (∀ c ∈ cs.head?, c = '$') →
      ∀ c ∈ (List.replicate m '$' ++ cs).head?, c = '$' := fun m cs hcs => by
    cases m with
    | zero => exact hcs
    | succ m => simp [List.replicate_succ]
  have hbefore : fill value? before = fill value? start ++ List.replicate n '$' := by
    rw [hsplit, ← List.append_nil (List.replicate (n + n) '$'),
      fill_append_of_getLast? hlast (hdollars _ _ (by simp)), fill_replicate]
    exact congrArg _ (List.append_nil _)
  rw [hbefore, hsplit, List.append_assoc,
    fill_append_of_getLast? hlast (hdollars _ _ (by simp)), fill_replicate, List.append_assoc]

/-- A name in braces becomes its value, or stays if it has none. -/
theorem fill_braced (hkey : name (key ++ '}' :: cs) = key) (hne : key ≠ []) :
    fill value? ('$' :: '{' :: (key ++ '}' :: cs)) =
      ((value? (String.ofList key)).map String.toList).getD ('$' :: '{' :: (key ++ ['}'])) ++
        fill value? cs := by
  have hplaceholder : placeholder ('{' :: (key ++ '}' :: cs)) = .named key true := by
    rw [placeholder, hkey, if_pos]
    exact ⟨hne, by simp⟩
  have htaken : ('{' :: (key ++ '}' :: cs)).take (key.length + 2) = '{' :: (key ++ ['}']) := by
    simp [List.take_append, List.take_of_length_le]
  have hrest : ('{' :: (key ++ '}' :: cs)).drop (key.length + 2) = cs := by
    simp [List.drop_append]
  rw [fill_dollar, hplaceholder, Placeholder.length, if_pos rfl, htaken, hrest,
    Placeholder.replacement]
  cases value? (String.ofList key) <;> rfl

/-- What a text is filled to depends on the values of the names in it only. -/
theorem fill_congr
    (h : ∀ key, isName key → Mentions key cs →
      value? (String.ofList key) = value?' (String.ofList key)) :
    fill value? cs = fill value?' cs := by
  -- What is left to skip changes on the way, so this is shown for any number.
  suffices ∀ skip, fillAfter value? skip cs = fillAfter value?' skip cs from this 0
  induction cs with
  | nil => exact fun _ => rfl
  | cons c cs ih =>
    have ih := ih fun key hname hkey => h key hname (hkey.cons c)
    intro skip
    cases skip with
    | succ skip => exact ih skip
    | zero =>
      by_cases hc : c = '$'
      · have hreplacement : ∀ taken, (placeholder cs).replacement value? taken =
            (placeholder cs).replacement value?' taken := fun taken => by
          cases hp : placeholder cs with
          | dollar => rfl
          | stray => rfl
          | named key braced =>
            obtain ⟨hname, hkey⟩ := mentions_of_placeholder hp
            simp only [Placeholder.replacement, h key hname (hc ▸ hkey)]
        rw [fillAfter, if_pos hc, fillAfter, if_pos hc]
        simp only [hreplacement, ih]
      · rw [fillAfter, if_neg hc, fillAfter, if_neg hc, ih 0]

/-- The text of a template with one name in braces. -/
theorem render_braced (before key after : String)
    (hs : s.toList = before.toList ++ '$' :: '{' :: (key.toList ++ '}' :: after.toList))
    (hbefore : '$' ∉ before.toList) (hafter : '$' ∉ after.toList)
    (hkey : name (key.toList ++ '}' :: after.toList) = key.toList) (hne : key.toList ≠ [])
    (hv : value? key = some value) : render value? s = before ++ value ++ after := by
  rw [render, hs, fill_append hbefore, fill_braced hkey hne, String.ofList_toList, hv,
    Option.map_some, Option.getD_some, fill_eq_self hafter, String.ofList_append,
    String.ofList_append, String.ofList_toList, String.ofList_toList, String.ofList_toList,
    String.append_assoc]

end Parley.Template

import Mathlib.Data.List.TakeWhile
import Parley.Proofs.Terminal.Rules

/-!
# What is shown of marked-up text

A screen of some columns keeps to the rules of markup (`Screen.readsMarkup_ofWidth`).

A marked-up text is shown piece by piece. Its first segment is a piece of its own if it is a tag
(`shownPieces_bracketed`, `shownPieces_escaped`); words may go on in what follows, but they show as
they are in any case (`shownPieces_words`). So a text in segments is shown segment by segment, and
what is open after one is all that it leaves to the rest (`exists_shownPieces_segment`).

Names of styles can be read unless they have a parenthesis (`Style.exists_normalize`).
-/

namespace Parley.Terminal

variable {cs before after content : List Char} {n k : Nat} {c : Char}

/-! ### Names of styles -/

namespace Style

theorem eq_of_toLower {c : Char} (h : c.toLower = '(') : c = '(' := by
  unfold Char.toLower at h
  split at h
  · rename_i hupper
    obtain ⟨hle, hge⟩ := hupper
    have hval := congrArg Char.val h
    simp only [UInt32.le_iff_toNat_le, ← UInt32.toNat_inj] at hle hge hval
    simp at hle hge hval
    omega
  · exact h

theorem not_mem_toLower {word : String} (h : '(' ∉ word.toList) : '(' ∉ word.toLower.toList := by
  change '(' ∉ (word.map Char.toLower).toList
  rw [String.toList_map]
  intro hmem
  obtain ⟨c, hc, hlower⟩ := List.mem_map.1 hmem
  exact h (eq_of_toLower hlower ▸ hc)

theorem argument?_eq_none {opening word : String} (hopening : '(' ∈ opening.toList)
    (hword : '(' ∉ word.toList) : argument? opening word = none := by
  have hstarts : ¬word.startsWith opening := by
    rw [String.startsWith_string_iff]
    exact fun h => hword (h.subset hopening)
  exact if_neg fun h => hstarts h.1

theorem exists_isColor {word : String} (h : '(' ∉ word.toList) :
    ∃ b, isColor word.toLower = .ok b := by
  unfold isColor
  split
  · exact ⟨true, rfl⟩
  · rw [argument?_eq_none (by decide) (not_mem_toLower h)]
    exact ⟨false, rfl⟩

theorem exists_ofWords {ws : List String} (h : ∀ w ∈ ws, '(' ∉ w.toList) (parts : Parts) :
    ∃ r, ofWords parts ws = .ok r := by
  fun_induction ofWords parts ws with
  | case1 => exact ⟨_, rfl⟩
  | case2 parts w word color rest _ ih =>
    obtain ⟨b, hb⟩ := exists_isColor (h color (by simp))
    obtain ⟨r, hr⟩ := ih fun w hw => h w (by simp [hw])
    rw [hb]
    cases b
    · exact ⟨none, rfl⟩
    · exact ⟨r, hr⟩
  | case3 parts w word name rest _ a _ ih => exact ih fun w hw => h w (by simp [hw])
  | case5 parts w word url rest _ ih => exact ih fun w hw => h w (by simp [hw])
  | case9 parts w word rest a _ _ _ _ _ _ _ ih => exact ih fun w hw => h w (by simp [hw])
  | case10 parts w word rest _ _ _ _ _ _ _ ih =>
    obtain ⟨b, hb⟩ := exists_isColor (h w List.mem_cons_self)
    obtain ⟨r, hr⟩ := ih fun w hw => h w (by simp [hw])
    rw [hb]
    cases b
    · exact ⟨none, rfl⟩
    · exact ⟨r, hr⟩
  | case4 | case6 | case7 | case8 => exact ⟨none, rfl⟩

theorem subset_of_spanWord {word rest : List Char} (h : spanWord cs = some (word, rest)) :
    word ⊆ cs ∧ rest ⊆ cs := by
  simp only [spanWord] at h
  split at h
  · cases h
  · cases h
    refine ⟨fun c hc => ?_, List.Subset.trans (List.drop_subset _ _) (List.drop_subset _ _)⟩
    rcases List.mem_append.1 hc with hc | hc
    · rcases List.mem_append.1 hc with hc | hc
      · exact (List.takeWhile_sublist _).subset hc
      · exact List.drop_subset _ _ ((List.takeWhile_sublist _).subset hc)
    · exact List.drop_subset _ _ (List.drop_subset _ _ ((List.takeWhile_sublist _).subset hc))

/-- The characters of a word stand in the line that it is taken from. -/
theorem subset_of_mem_words {word : List Char} (h : word ∈ words n cs) : word ⊆ cs := by
  induction n generalizing cs with
  | zero => cases h
  | succ n ih =>
    rw [words] at h
    split at h
    · obtain ⟨hfirst, hrest⟩ := subset_of_spanWord ‹_›
      rcases List.mem_cons.1 h with rfl | h
      · exact hfirst
      · exact List.Subset.trans (ih h) hrest
    · cases h

theorem not_mem_wordsOf {name word : String} (h : '(' ∉ name.toList) (hw : word ∈ wordsOf name) :
    '(' ∉ word.toList := by
  obtain ⟨trimmed, htrimmed, rfl⟩ := List.mem_map.1 hw
  obtain ⟨cs, hcs, rfl⟩ := List.mem_map.1 htrimmed
  rw [String.toList_ofList]
  exact fun hmem => h (subset_of_mem_words hcs (Text.trim_subset cs hmem))

/-- A name without parentheses has a normal form. -/
theorem exists_normalize {name : String} (h : '(' ∉ name.toList) : ∃ s, normalize name = .ok s := by
  obtain ⟨r, hr⟩ := exists_ofWords (fun w hw => not_mem_wordsOf h hw) ⟨[], none, none, none⟩
  simp only [normalize]
  split
  · exact ⟨_, rfl⟩
  · rw [hr]
    cases r <;> exact ⟨_, rfl⟩

end Style

namespace Emoji

/-- Before the first colon nothing is replaced. -/
theorem replace_append (h : ':' ∉ before) (cs : List Char) :
    replace (before ++ cs) = before ++ replace cs := by
  rw [replace]
  induction before with
  | nil => rfl
  | cons c before ih =>
    have hc : c ≠ ':' := fun hc => h (hc ▸ List.mem_cons_self)
    rw [List.cons_append, List.length_cons, replaceUpTo, if_neg hc,
      ih fun hmem => h (List.mem_cons_of_mem c hmem), List.cons_append]

end Emoji

namespace Markup

/-! ### Tags -/

theorem IsTag.exists_cons (h : IsTag content) :
    ∃ c tail, content = c :: tail ∧ isTagStart c ∧ ∀ d ∈ tail, d ≠ '[' ∧ d ≠ ']' := by
  obtain ⟨hstart, hopen, hclose⟩ := h
  cases content with
  | nil => cases hstart
  | cons c tail =>
    exact ⟨c, tail, rfl, hstart, fun d hd => ⟨fun h => hopen (h ▸ List.mem_cons_of_mem c hd),
      fun h => hclose (h ▸ List.mem_cons_of_mem c hd)⟩⟩

/-- A tag begins after a bracket if it is followed by the bracket that closes it. -/
theorem tagAfterBracket_of_isTag (h : IsTag content) (after : List Char) :
    tagAfterBracket (content ++ ']' :: after) = some (content, after) := by
  obtain ⟨c, tail, rfl, hc, htail⟩ := h.exists_cons
  have htake : (tail ++ ']' :: after).takeWhile (fun d => d ≠ '[' ∧ d ≠ ']') = tail := by
    rw [List.takeWhile_append_of_pos fun d hd => by simpa using htail d hd,
      List.takeWhile_cons_of_neg (by simp), List.append_nil]
  simp only [List.cons_append, tagAfterBracket, htake, List.drop_left]
  exact if_pos ⟨hc, rfl⟩

theorem length_of_tagAfterBracket (h : tagAfterBracket cs = some (content, after)) :
    after.length < cs.length := by
  cases cs with
  | nil => cases h
  | cons c rest =>
    simp only [tagAfterBracket] at h
    split at h
    · cases h
      simp only [List.length_drop, List.length_cons]
      omega
    · cases h

theorem tagAt_bracketed (h : IsTag content) (after : List Char) :
    tagAt (bracketed content ++ after) = some (0, content, after) := by
  have hcs : bracketed content ++ after = '[' :: (content ++ ']' :: after) := by simp [bracketed]
  have hslashes : (('[' :: (content ++ ']' :: after)).takeWhile (· = '\\')).length = 0 := rfl
  simp only [hcs, tagAt]
  rw [hslashes, List.drop_zero]
  exact congrArg (Option.map fun t => (0, t.1, t.2)) (tagAfterBracket_of_isTag h after)

theorem tagAt_escaped (h : IsTag content) (after : List Char) :
    tagAt ('\\' :: bracketed content ++ after) = some (1, content, after) := by
  have hcs : '\\' :: bracketed content ++ after = '\\' :: '[' :: (content ++ ']' :: after) := by
    simp [bracketed]
  have hslashes :
      (('\\' :: '[' :: (content ++ ']' :: after)).takeWhile (· = '\\')).length = 1 := rfl
  simp only [hcs, tagAt]
  rw [hslashes, List.drop_one, List.tail_cons]
  exact congrArg (Option.map fun t => (1, t.1, t.2)) (tagAfterBracket_of_isTag h after)

/-- No tag begins with an ordinary character. -/
theorem tagAt_of_isOrdinary (h : isOrdinary c) (cs : List Char) : tagAt (c :: cs) = none := by
  simp only [isOrdinary, Bool.and_eq_true, decide_eq_true_eq] at h
  have hslashes : ((c :: cs).takeWhile (· = '\\')).length = 0 := by
    rw [List.takeWhile_cons_of_neg (by simpa using h.1.1.2)]
    rfl
  simp only [tagAt]
  rw [hslashes, List.drop_zero]
  split
  · rename_i hcs
    exact absurd (List.cons.inj hcs).1 h.1.1.1
  · rfl

/-- What follows a tag is shorter than what begins with it. -/
theorem length_of_tagAt (h : tagAt cs = some (k, content, after)) : after.length < cs.length := by
  simp only [tagAt] at h
  split at h
  · rename_i rest hrest
    obtain ⟨t, ht, heq⟩ := Option.map_eq_some_iff.1 h
    cases heq
    have hdrop := congrArg List.length hrest
    have hlt := length_of_tagAfterBracket ht
    simp only [List.length_drop, List.length_cons] at hdrop
    omega
  · cases h

/-! ### Pieces -/

theorem piecesFrom_of_tagAt (h : tagAt cs = some (k, content, after)) (n : Nat)
    (before : List Char) : piecesFrom (n + 1) before cs =
      plainPiece before ++ tagPieces k content ++ piecesFrom n [] after := by
  cases cs with
  | nil => cases h
  | cons c cs =>
    rw [piecesFrom, h]

theorem piecesFrom_of_tagAt_none (h : tagAt (c :: cs) = none) (n : Nat) (before : List Char) :
    piecesFrom (n + 1) before (c :: cs) = piecesFrom n (c :: before) cs := by
  rw [piecesFrom, h]

theorem piecesFrom_succ (h : cs.length ≤ n) (before : List Char) :
    piecesFrom (n + 1) before cs = piecesFrom n before cs := by
  induction n generalizing cs before with
  | zero =>
    cases List.length_eq_zero_iff.1 (Nat.le_zero.1 h)
    rfl
  | succ n ih =>
    cases cs with
    | nil => rfl
    | cons c cs =>
      rw [piecesFrom, piecesFrom]
      split
      · rename_i htag
        have hlen := length_of_tagAt htag
        rw [ih (by omega)]
      · exact ih (Nat.le_of_succ_le_succ h) _

theorem piecesFrom_eq_pieces (h : cs.length ≤ n) : piecesFrom n [] cs = pieces cs := by
  rw [pieces, piecesFrom_succ le_rfl]
  induction n, h using Nat.le_induction with
  | base => rfl
  | succ n h ih => rw [piecesFrom_succ h, ih]

/-- A tag at the beginning makes pieces of its own. -/
theorem pieces_of_tagAt (h : tagAt cs = some (k, content, after)) :
    pieces cs = tagPieces k content ++ pieces after := by
  rw [pieces, piecesFrom_of_tagAt h, piecesFrom_eq_pieces (length_of_tagAt h).le]
  rfl

/-- Ordinary characters are only added to those that have been seen. -/
theorem piecesFrom_words (h : before.all isOrdinary) (n : Nat) (seen cs : List Char) :
    piecesFrom (before.length + n) seen (before ++ cs) =
      piecesFrom n (before.reverse ++ seen) cs := by
  induction before generalizing seen with
  | nil => rw [List.length_nil, Nat.zero_add]; rfl
  | cons c before ih =>
    rw [List.all_cons, Bool.and_eq_true] at h
    obtain ⟨hc, hbefore⟩ := h
    rw [List.length_cons, Nat.add_right_comm, List.cons_append,
      piecesFrom_of_tagAt_none (tagAt_of_isOrdinary hc _), ih hbefore, List.reverse_cons,
      List.append_assoc, List.singleton_append]

/-- What is read before a text goes to its first piece only. -/
theorem exists_piecesFrom (n : Nat) (cs : List Char) : ∃ plain rest, ∀ before,
    piecesFrom n before cs = plainPiece (plain ++ before) ++ rest := by
  induction n generalizing cs with
  | zero => exact ⟨[], [], fun before => (List.append_nil _).symm⟩
  | succ n ih =>
    cases cs with
    | nil => exact ⟨[], [], fun before => (List.append_nil _).symm⟩
    | cons c cs =>
      cases ht : tagAt (c :: cs) with
      | none =>
        obtain ⟨plain, rest, h⟩ := ih cs
        refine ⟨plain ++ [c], rest, fun before => ?_⟩
        rw [piecesFrom_of_tagAt_none ht, h, List.append_assoc, List.singleton_append]
      | some t =>
        obtain ⟨k, content, after⟩ := t
        refine ⟨[], tagPieces k content ++ piecesFrom n [] after, fun before => ?_⟩
        rw [piecesFrom_of_tagAt ht, List.append_assoc, List.nil_append]

/-! ### What pieces show -/

/-- What characters show in which no tag stands. -/
def resolved (cs : List Char) : List Char :=
  sanitized (Emoji.replace (unescape cs))

theorem unescape_append (h : '\\' ∉ before) (cs : List Char) :
    unescape (before ++ cs) = before ++ unescape cs := by
  induction before with
  | nil => rfl
  | cons c before ih =>
    rw [List.mem_cons, not_or] at h
    rw [List.cons_append, unescape, ih h.2, List.cons_append]
    exact fun _ hc _ => h.1 hc.symm

/-- Characters that are no tag and mean nothing else to markup are kept. -/
theorem resolved_append (hslash : '\\' ∉ before) (hcolon : ':' ∉ before)
    (hkept : ∀ c ∈ before, !isStripped c) (cs : List Char) :
    resolved (before ++ cs) = before ++ resolved cs := by
  rw [resolved, unescape_append hslash, Emoji.replace_append hcolon, sanitized, List.filter_append,
    List.filter_eq_self.2 hkept]
  rfl

theorem ordinary_of_all (h : before.all isOrdinary) :
    '\\' ∉ before ∧ ':' ∉ before ∧ ∀ c ∈ before, !isStripped c := by
  have hall : ∀ c ∈ before, ((c ≠ '[' ∧ c ≠ '\\') ∧ c ≠ ':') ∧ isStripped c = false := by
    simpa [isOrdinary] using h
  exact ⟨fun hc => (hall _ hc).1.1.2 rfl, fun hc => (hall _ hc).1.2 rfl,
    fun c hc => by simp [(hall c hc).2]⟩

theorem shownPieces_plainPiece (stack : List String) (cs : List Char) (rest : List Piece) :
    shownPieces stack (plainPiece cs.reverse ++ rest) =
      (resolved cs ++ ·) <$> shownPieces stack rest := by
  cases cs with
  | nil => exact (id_map (shownPieces stack rest)).symm
  | cons c cs =>
    have hpiece : plainPiece (c :: cs).reverse = [.plain (c :: cs)] := by
      simp [plainPiece]
    rw [hpiece, List.singleton_append, shownPieces]
    cases shownPieces stack rest <;> rfl

/-- Words show as they are, whatever follows them. -/
theorem shownPieces_words (h : before.all isOrdinary) (stack : List String) (cs : List Char) :
    shownPieces stack (pieces (before ++ cs)) =
      (before ++ ·) <$> shownPieces stack (pieces cs) := by
  obtain ⟨hslash, hcolon, hkept⟩ := ordinary_of_all h
  obtain ⟨plain, rest, hpieces⟩ := exists_piecesFrom (cs.length + 1) cs
  have hbehind : pieces (before ++ cs) = plainPiece (before ++ plain.reverse).reverse ++ rest := by
    rw [pieces, List.length_append, Nat.add_assoc, piecesFrom_words h, hpieces,
      List.reverse_append, List.reverse_reverse, List.append_nil]
  have halone : pieces cs = plainPiece plain.reverse.reverse ++ rest := by
    rw [pieces, hpieces, List.reverse_reverse, List.append_nil]
  rw [hbehind, shownPieces_plainPiece, halone, shownPieces_plainPiece,
    resolved_append hslash hcolon hkept]
  cases shownPieces stack rest with
  | error cause => rfl
  | ok out => exact congrArg Except.ok (List.append_assoc _ _ _)

/-- A tag acts on the styles with which the rest is shown. -/
theorem shownPieces_bracketed (h : IsTag content) (stack : List String) (after : List Char) :
    shownPieces stack (pieces (bracketed content ++ after)) =
      openAfter stack content >>= fun stack => shownPieces stack (pieces after) := by
  rw [pieces_of_tagAt (tagAt_bracketed h after)]
  rfl

/-- An escaped tag shows as it is. -/
theorem shownPieces_escaped (h : IsTag content) (hcontent : content.all isOrdinary)
    (stack : List String) (after : List Char) :
    shownPieces stack (pieces ('\\' :: bracketed content ++ after)) =
      (bracketed content ++ ·) <$> shownPieces stack (pieces after) := by
  obtain ⟨hslash, hcolon, hkept⟩ := ordinary_of_all hcontent
  have hpiece : resolved (bracketed content) = bracketed content := by
    have hkept' : ∀ c ∈ bracketed content, !isStripped c := by
      simpa [bracketed, or_imp, forall_and, isStripped] using hkept
    have happend := resolved_append (by simp [bracketed, hslash]) (by simp [bracketed, hcolon])
      hkept' []
    rw [List.append_nil] at happend
    exact happend.trans (List.append_nil _)
  rw [pieces_of_tagAt (tagAt_escaped h after)]
  show (do pure (resolved (bracketed content) ++ (← shownPieces stack (pieces after)))) = _
  rw [hpiece]
  cases shownPieces stack (pieces after) <;> rfl

/-! ### Opening and closing -/

theorem tagName_cons (hc : c ≠ '=') (tail : List Char) :
    tagName (c :: tail) = c :: tail.takeWhile (· ≠ '=') :=
  List.takeWhile_cons_of_pos (by simpa using hc)

/-- A tag opens a style if its name can be read. -/
theorem exists_openAfter (h : IsTag content) (hopen : content.head? ≠ some '/')
    (hname : '(' ∉ content) (stack : List String) :
    ∃ style, openAfter stack content = .ok (style :: stack) := by
  obtain ⟨c, tail, rfl, hstart, -⟩ := h.exists_cons
  have hc : c ≠ '=' := fun hc => by
    rw [hc] at hstart
    exact absurd hstart (by decide)
  have hnormal : '(' ∉ (String.ofList (tagName (c :: tail))).toList := by
    rw [String.toList_ofList]
    exact fun hmem => hname ((List.takeWhile_sublist _).subset hmem)
  obtain ⟨style, hstyle⟩ := Style.exists_normalize hnormal
  rw [tagName_cons hc] at hstyle
  refine ⟨style, ?_⟩
  unfold openAfter
  rw [tagName_cons hc]
  split
  · rename_i heq
    cases heq
    exact absurd rfl hopen
  · rw [hstyle]
    rfl

/-- The last style is closed by a tag without a name. -/
theorem openAfter_cons_close (style : String) (stack : List String) :
    openAfter (style :: stack) ['/'] = .ok stack := rfl

/-- A tag that closes something needs something open. -/
theorem openAfter_nil_close {name : List Char} (hname : '(' ∉ name) :
    openAfter [] ('/' :: name) = .error .markup := by
  have hnormal : '(' ∉ (Text.stripped (String.ofList (name.takeWhile (· ≠ '=')))).toList := by
    rw [Text.stripped, String.toList_ofList, String.toList_ofList]
    exact fun hmem => hname ((List.takeWhile_sublist _).subset (Text.trim_subset _ hmem))
  obtain ⟨style, hstyle⟩ := Style.exists_normalize hnormal
  simp only [openAfter, tagName_cons (by decide : '/' ≠ '=')]
  generalize Text.stripped (String.ofList (name.takeWhile (· ≠ '='))) = word at hstyle ⊢
  split
  · rfl
  · rw [hstyle]
    rfl

/-! ### Texts in segments -/

/-- A tag shows nothing itself. -/
theorem shownPieces_tag {stack opened : List String} (h : IsTag content)
    (hopened : openAfter stack content = .ok opened) (after : List Char) :
    shownPieces stack (pieces (bracketed content ++ after)) =
      ([] ++ ·) <$> shownPieces opened (pieces after) := by
  rw [shownPieces_bracketed h, hopened]
  exact (id_map _).symm

/-- A segment shows what it does and leaves some styles open, with which the rest is shown. -/
theorem exists_shownPieces_segment {p : Segment} {ps : List Segment} (hp : p.IsProper)
    {stack : List String} (h : depth stack.length (p :: ps) = some n) :
    ∃ opened, depth opened.length ps = some n ∧
      ∀ after, shownPieces stack (pieces (p.written ++ after)) =
        (p.shown ++ ·) <$> shownPieces opened (pieces after) := by
  cases p with
  | words cs => exact ⟨stack, h, shownPieces_words hp stack⟩
  | escaped content => exact ⟨stack, h, shownPieces_escaped hp.1 hp.2 stack⟩
  | opening content =>
    obtain ⟨htag, hopen, -, hname⟩ := hp
    obtain ⟨style, hstyle⟩ := exists_openAfter htag hopen hname stack
    exact ⟨style :: stack, h, shownPieces_tag htag hstyle⟩
  | closing =>
    cases stack with
    | nil => cases h
    | cons style stack =>
      exact ⟨stack, h, shownPieces_tag (by decide) (openAfter_cons_close style stack)⟩

/-- So do any segments, one after the other. -/
theorem exists_shownPieces_written {ps : List Segment} (hps : ∀ p ∈ ps, p.IsProper)
    (stack : List String) (h : depth stack.length ps = some n) :
    ∃ stack', stack'.length = n ∧ ∀ after, shownPieces stack (pieces (written ps ++ after)) =
      (shownOf ps ++ ·) <$> shownPieces stack' (pieces after) := by
  induction ps generalizing stack with
  | nil =>
    exact ⟨stack, Option.some.inj h, fun after => (id_map _).symm⟩
  | cons p ps ih =>
    obtain ⟨hp, hps⟩ := List.forall_mem_cons.1 hps
    obtain ⟨opened, hdepth, hshown⟩ := exists_shownPieces_segment hp h
    obtain ⟨stack', hlen, hrest⟩ := ih hps opened hdepth
    refine ⟨stack', hlen, fun after => ?_⟩
    rw [written_cons, List.append_assoc, hshown, hrest, shownOf_cons]
    cases shownPieces stack' (pieces after) with
    | error cause => rfl
    | ok out => exact congrArg Except.ok (List.append_assoc _ _ _).symm

end Markup

open Markup

/-- A screen of some columns and without colours keeps to the rules of markup. -/
theorem Screen.readsMarkup_ofWidth (width : Nat) : (Screen.ofWidth width).ReadsMarkup where
  line_matched ps hps h := by
    obtain ⟨n, hn⟩ := Option.isSome_iff_exists.1 h
    obtain ⟨stack', -, hshown⟩ := exists_shownPieces_written hps [] hn
    have hshown : Markup.shown (written ps) = .ok (shownOf ps) := by
      have := hshown []
      rw [List.append_nil] at this
      exact this.trans (congrArg Except.ok (List.append_nil _))
    show wrapped width <$> Markup.shown (written ps) = _
    rw [hshown]
    rfl
  line_unmatched ps name after hps h htag hname := by
    obtain ⟨stack', hlen, hshown⟩ := exists_shownPieces_written hps [] h
    cases List.length_eq_zero_iff.1 hlen
    have hshown : Markup.shown (written ps ++ (bracketed ('/' :: name) ++ after)) =
        .error .markup := by
      rw [Markup.shown, hshown, shownPieces_bracketed htag, openAfter_nil_close hname]
      rfl
    show wrapped width <$> Markup.shown _ = _
    rw [hshown]
    rfl

end Parley.Terminal

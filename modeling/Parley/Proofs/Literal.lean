import Mathlib.Data.List.TakeWhile
import Parley.Binary64.Reading

/-!
# The grammar of decimal literals

Which characters of ASCII spell a decimal literal can be told without reading them: a sign, a
mantissa and an exponent (`IsDecimal`). Reading goes through them once, and takes as many digits as
there are each time. As neither a point nor the letter of an exponent is a digit, this comes to the
same (`Literal.parse?_isSome_iff`). The value of a literal is never undefined
(`Literal.value_ne_nan`).
-/

namespace Parley

namespace Text

/-- All characters are ASCII. -/
def IsAscii (cs : List Char) : Prop :=
  ∀ c ∈ cs, c.toNat < 128

instance (cs : List Char) : Decidable (IsAscii cs) :=
  List.decidableBAll _ _

theorem IsAscii.subset {cs ds : List Char} (h : IsAscii cs) (hs : ds ⊆ cs) : IsAscii ds :=
  fun c hc => h c (hs hc)

/-- What is said about a character of ASCII can be checked for one code point after the other. -/
theorem exists_ofNat {c : Char} (hc : c.toNat < 128) : ∃ n < 128, c = Char.ofNat n :=
  ⟨c.toNat, hc, (Char.ofNat_toNat c).symm⟩

/-- The digits of all scripts that are ASCII are the ten digits of ASCII. -/
theorem digit?_of_ascii {c : Char} (hc : c.toNat < 128) :
    digit? c = if c.isDigit then some (c.toNat - 48) else none := by
  obtain ⟨n, hn, rfl⟩ := exists_ofNat hc
  clear hc
  revert n
  decide +kernel

end Text

namespace Binary64

open Text

variable {cs ds rest sign : List Char} {c : Char}

/-! ### The grammar -/

/-- Some digits, one at least. -/
structure IsDigits (cs : List Char) : Prop where
  ne_nil : cs ≠ []
  all : ∀ c ∈ cs, c.isDigit = true

inductive IsSign : List Char → Prop
  | none : IsSign []
  | plus : IsSign ['+']
  | minus : IsSign ['-']

/-- Digits with an optional point, or a point followed by digits. -/
inductive IsMantissa : List Char → Prop
  | whole {ds : List Char} : IsDigits ds → IsMantissa ds
  | pointed {ds es : List Char} : IsDigits ds → (∀ c ∈ es, c.isDigit = true) →
      IsMantissa (ds ++ '.' :: es)
  | places {es : List Char} : IsDigits es → IsMantissa ('.' :: es)

inductive IsExponent : List Char → Prop
  | none : IsExponent []
  | letter {e : Char} {sign ds : List Char} : e = 'e' ∨ e = 'E' → IsSign sign → IsDigits ds →
      IsExponent (e :: (sign ++ ds))

/-- A decimal literal. -/
inductive IsDecimal : List Char → Prop
  | intro {sign mantissa exponent : List Char} : IsSign sign → IsMantissa mantissa →
      IsExponent exponent → IsDecimal (sign ++ (mantissa ++ exponent))

/-! ### Spans -/

theorem spanDigits_eq (h : IsAscii cs) : spanDigits cs =
    ((cs.takeWhile Char.isDigit).map (·.toNat - 48), cs.dropWhile Char.isDigit) := by
  induction cs with
  | nil => rfl
  | cons c cs ih =>
    obtain ⟨hc, hcs⟩ := List.forall_mem_cons.1 h
    rw [spanDigits, digit?_of_ascii hc]
    cases hd : c.isDigit <;> simp [hd, ih hcs]

theorem takeWhile_isDigit_append (hds : ∀ c ∈ ds, c.isDigit = true)
    (hrest : ∀ c ∈ rest.head?, c.isDigit = false) :
    (ds ++ rest).takeWhile Char.isDigit = ds ∧ (ds ++ rest).dropWhile Char.isDigit = rest := by
  have hnone : rest.takeWhile Char.isDigit = [] ∧ rest.dropWhile Char.isDigit = rest := by
    cases rest with
    | nil => exact ⟨rfl, rfl⟩
    | cons c rest => simp [hrest c rfl]
  rw [List.takeWhile_append_of_pos hds, List.dropWhile_append_of_pos hds, hnone.1, hnone.2,
    List.append_nil]
  exact ⟨rfl, rfl⟩

theorem isDigits_takeWhile (h : cs.takeWhile Char.isDigit ≠ []) :
    IsDigits (cs.takeWhile Char.isDigit) :=
  ⟨h, fun _ hc => List.mem_takeWhile_imp hc⟩

/-- All of the characters are digits if nothing follows the digits at their beginning. -/
theorem isDigits_iff : IsDigits cs ↔
    cs.takeWhile Char.isDigit ≠ [] ∧ cs.dropWhile Char.isDigit = [] := by
  refine ⟨fun h => ?_, fun ⟨hne, hdrop⟩ => ?_⟩
  · rw [List.takeWhile_eq_self_iff.2 h.all, List.dropWhile_eq_nil_iff.2 h.all]
    exact ⟨h.ne_nil, rfl⟩
  · have hcs := List.takeWhile_append_dropWhile (p := Char.isDigit) (l := cs)
    rw [hdrop, List.append_nil] at hcs
    exact hcs ▸ isDigits_takeWhile hne

/-- A sign is an optional one, and what follows it is left. -/
theorem exists_sign (cs : List Char) : ∃ sign, IsSign sign ∧ cs = sign ++ (spanSign cs).2 := by
  unfold spanSign
  split
  · exact ⟨_, .minus, rfl⟩
  · exact ⟨_, .plus, rfl⟩
  · exact ⟨_, .none, rfl⟩

theorem spanSign_append (hs : IsSign sign) (hcs : ∀ c ∈ cs.head?, c ≠ '-' ∧ c ≠ '+') :
    (spanSign (sign ++ cs)).2 = cs := by
  cases hs with
  | plus | minus => rfl
  | none =>
    rw [List.nil_append]
    unfold spanSign
    split
    · exact absurd rfl (hcs _ rfl).1
    · exact absurd rfl (hcs _ rfl).2
    · rfl

theorem IsDigits.head_isDigit (h : IsDigits ds) : ∀ c ∈ (ds ++ rest).head?, c.isDigit = true := by
  obtain ⟨d, ds', rfl⟩ := List.exists_cons_of_ne_nil h.ne_nil
  intro c hc
  obtain rfl : d = c := Option.some.inj hc
  exact h.all d List.mem_cons_self

theorem ne_sign_of_isDigit (h : c.isDigit = true) : c ≠ '-' ∧ c ≠ '+' := by
  constructor <;> rintro rfl <;> exact absurd h (by decide)

/-! ### Reading -/

theorem IsExponent.head (h : IsExponent cs) : ∀ c ∈ cs.head?, c = 'e' ∨ c = 'E' := by
  cases h with
  | none => exact fun _ hc => by cases hc
  | letter he =>
    intro c hc
    obtain rfl := Option.some.inj hc
    exact he

/-- An exponent begins with no digit. -/
theorem IsExponent.not_isDigit (h : IsExponent cs) : ∀ c ∈ cs.head?, c.isDigit = false := by
  intro c hc
  rcases h.head c hc with rfl | rfl <;> decide

theorem isAscii_spanSign (h : IsAscii cs) : IsAscii (spanSign cs).2 := by
  obtain ⟨sign, -, hcs⟩ := exists_sign cs
  rw [hcs] at h
  exact fun c hc => h c (List.mem_append_right _ hc)

/-- The letter, an optional sign, and digits up to the end. -/
theorem exponent?_cons_isSome_iff (h : IsAscii cs) :
    (exponent? (c :: cs)).isSome ↔ (c = 'e' ∨ c = 'E') ∧ IsDigits (spanSign cs).2 := by
  rw [exponent?, isDigits_iff]
  split_ifs with hc
  · simp only [spanDigits_eq (isAscii_spanSign h), hc, true_and]
    cases (spanSign cs).2.takeWhile Char.isDigit <;>
      cases (spanSign cs).2.dropWhile Char.isDigit <;> simp
  · simp [hc]

theorem exponent?_isSome_iff (h : IsAscii cs) : (exponent? cs).isSome ↔ IsExponent cs := by
  cases cs with
  | nil => exact ⟨fun _ => .none, fun _ => rfl⟩
  | cons c cs =>
    rw [exponent?_cons_isSome_iff (List.forall_mem_cons.1 h).2]
    constructor
    · rintro ⟨hc, hdigits⟩
      obtain ⟨sign, hsign, hcs⟩ := exists_sign cs
      rw [hcs]
      exact .letter hc hsign hdigits
    · rintro (_ | @⟨_, _, ds, hc, hsign, hdigits⟩)
      have hhead : ∀ d ∈ (ds ++ []).head?, d.isDigit = true := hdigits.head_isDigit
      rw [List.append_nil] at hhead
      rw [spanSign_append hsign fun d hd => ne_sign_of_isDigit (hhead d hd)]
      exact ⟨hc, hdigits⟩

namespace Literal

/-- What follows the point, if the characters begin with one: the places, and what is left. -/
def spanPlaces : List Char → List Nat × List Char
  | '.' :: cs => spanDigits cs
  | cs => ([], cs)

/-- Some digits with an optional point, and an exponent, make up all of the characters. -/
def isUnsigned (cs : List Char) : Bool :=
  let whole := spanDigits cs
  let places := spanPlaces whole.2
  (!whole.1.isEmpty || !places.1.isEmpty) && (exponent? places.2).isSome

theorem parse?_isSome (cs : List Char) : (parse? cs).isSome = isUnsigned (spanSign cs).2 := by
  have hparse : parse? cs =
      let whole := spanDigits (spanSign cs).2
      let places := spanPlaces whole.2
      if whole.1.isEmpty && places.1.isEmpty then none
      else (exponent? places.2).map fun e => ⟨(spanSign cs).1, whole.1, places.1, e⟩ := rfl
  rw [hparse, isUnsigned]
  simp only [← Bool.not_and]
  split_ifs with hnone
  · rw [hnone]
    rfl
  · rw [Bool.not_eq_true] at hnone
    rw [hnone, Option.isSome_map, Bool.not_false, Bool.true_and]

theorem isUnsigned_append {mantissa exponent : List Char} (h : IsAscii (mantissa ++ exponent))
    (hm : IsMantissa mantissa) (he : IsExponent exponent) :
    isUnsigned (mantissa ++ exponent) = true := by
  have hexp : (exponent? exponent).isSome :=
    (exponent?_isSome_iff (h.subset (List.subset_append_right _ _))).2 he
  -- No exponent begins with a point.
  have hpoint : spanPlaces exponent = ([], exponent) := by
    cases he with
    | none => rfl
    | letter hc => rcases hc with rfl | rfl <;> rfl
  cases hm with
  | whole hd =>
    obtain ⟨htake, hdrop⟩ := takeWhile_isDigit_append hd.all he.not_isDigit
    simp [isUnsigned, spanDigits_eq h, htake, hdrop, hpoint, hexp, hd.ne_nil]
  | @pointed ds es hd hes =>
    rw [List.append_assoc, List.cons_append] at h ⊢
    have hes' : IsAscii (es ++ exponent) := h.subset fun c hc => by simp [hc]
    have hdot : ∀ c ∈ ('.' :: (es ++ exponent)).head?, c.isDigit = false :=
      fun c hc => Option.some.inj hc ▸ rfl
    obtain ⟨htake, hdrop⟩ := takeWhile_isDigit_append hd.all hdot
    obtain ⟨-, hdrop'⟩ := takeWhile_isDigit_append hes he.not_isDigit
    simp [isUnsigned, spanDigits_eq h, htake, hdrop, spanPlaces, spanDigits_eq hes', hdrop', hexp,
      hd.ne_nil]
  | @places es hd =>
    rw [List.cons_append] at h ⊢
    have hes' : IsAscii (es ++ exponent) := h.subset fun c hc => by simp [hc]
    obtain ⟨htake, hdrop⟩ := takeWhile_isDigit_append hd.all he.not_isDigit
    have hnone : '.'.isDigit = false := rfl
    simp [isUnsigned, spanDigits_eq h, hnone, spanPlaces, spanDigits_eq hes', htake, hdrop, hexp,
      hd.ne_nil]

theorem spanPlaces_cases (cs : List Char) :
    (∃ tail, cs = '.' :: tail) ∨ spanPlaces cs = ([], cs) := by
  unfold spanPlaces
  split
  · exact .inl ⟨_, rfl⟩
  · exact .inr rfl

/-- The digits before the point and after it make up a mantissa, if there are any. -/
theorem exists_mantissa (h : IsAscii cs) (hu : isUnsigned cs = true) :
    ∃ mantissa exponent, IsMantissa mantissa ∧ IsExponent exponent ∧ cs = mantissa ++ exponent := by
  have hcs := List.takeWhile_append_dropWhile (p := Char.isDigit) (l := cs)
  have hrest : IsAscii (cs.dropWhile Char.isDigit) := h.subset (List.dropWhile_suffix _).subset
  have hdigits (hne : cs.takeWhile Char.isDigit ≠ []) : IsDigits (cs.takeWhile Char.isDigit) :=
    isDigits_takeWhile hne
  simp only [isUnsigned, spanDigits_eq h, List.isEmpty_map] at hu
  generalize cs.takeWhile Char.isDigit = whole at hu hcs hdigits
  generalize cs.dropWhile Char.isDigit = rest at hu hcs hrest
  subst hcs
  rcases spanPlaces_cases rest with ⟨tail, rfl⟩ | hnone
  · -- The mantissa has a point.
    have htail : IsAscii tail := (List.forall_mem_cons.1 hrest).2
    have hcs := List.takeWhile_append_dropWhile (p := Char.isDigit) (l := tail)
    have hexp : IsAscii (tail.dropWhile Char.isDigit) :=
      htail.subset (List.dropWhile_suffix _).subset
    simp only [spanPlaces, spanDigits_eq htail, List.isEmpty_map, Bool.and_eq_true, Bool.or_eq_true,
      Bool.not_eq_true', List.isEmpty_eq_false_iff, exponent?_isSome_iff hexp] at hu
    obtain ⟨hsome, hexponent⟩ := hu
    by_cases hne : whole = []
    · refine ⟨_, _, .places (isDigits_takeWhile (hsome.resolve_left fun h => h hne)), hexponent, ?_⟩
      rw [hne, List.cons_append, hcs, List.nil_append]
    · have hplaces : ∀ c ∈ tail.takeWhile Char.isDigit, c.isDigit = true :=
        fun _ hc => List.mem_takeWhile_imp hc
      refine ⟨_, _, .pointed (hdigits hne) hplaces, hexponent, ?_⟩
      rw [List.append_assoc, List.cons_append, hcs]
  · -- Without a point the digits are all of it.
    simp only [hnone, List.isEmpty_nil, Bool.not_true, Bool.or_false, Bool.and_eq_true,
      Bool.not_eq_true', List.isEmpty_eq_false_iff, exponent?_isSome_iff hrest] at hu
    exact ⟨_, _, .whole (hdigits hu.1), hu.2, rfl⟩

/-- A mantissa does not begin with a sign. -/
theorem ne_sign_of_isMantissa {mantissa rest : List Char} (h : IsMantissa mantissa) :
    ∀ c ∈ (mantissa ++ rest).head?, c ≠ '-' ∧ c ≠ '+' := by
  cases h with
  | whole hd => exact fun c hc => ne_sign_of_isDigit (hd.head_isDigit c hc)
  | pointed hd =>
    rw [List.append_assoc]
    exact fun c hc => ne_sign_of_isDigit (hd.head_isDigit c hc)
  | places =>
    intro c hc
    obtain rfl : '.' = c := Option.some.inj hc
    decide

/-- The characters of ASCII that spell a decimal literal are those of the grammar. -/
theorem parse?_isSome_iff (h : IsAscii cs) : (parse? cs).isSome ↔ IsDecimal cs := by
  rw [parse?_isSome]
  constructor
  · intro hu
    obtain ⟨sign, hsign, hcs⟩ := exists_sign cs
    obtain ⟨mantissa, exponent, hm, he, hrest⟩ := exists_mantissa (isAscii_spanSign h) hu
    rw [hcs, hrest]
    exact .intro hsign hm he
  · rintro ⟨hsign, hm, he⟩
    rw [spanSign_append hsign (ne_sign_of_isMantissa hm)]
    exact isUnsigned_append (h.subset (List.subset_append_right _ _)) hm he

/-! ### Values -/

theorem ofUnits_ne_nan (negative : Bool) (u : Nat) : ofUnits negative u ≠ .nan := by
  unfold ofUnits
  split_ifs <;> simp

/-- The value of a literal is a number. -/
theorem value_ne_nan (x : Literal) : x.value ≠ .nan := by
  unfold value ofDecimal
  simp only
  split_ifs
  · simp
  · simp
  · exact ofUnits_ne_nan _ _
  · exact ofUnits_ne_nan _ _

end Literal

end Binary64

end Parley

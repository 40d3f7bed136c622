import Mathlib.Data.Nat.Digits.Defs
import Parley.Proofs.Answer
import Parley.Proofs.Literal

/-!
# The grammar of numerals

Which typed answers of ASCII are read as numbers can be told by a grammar (`IsNumeral`), blanks at
the ends aside: nothing at all, a spelled-out infinity, a decimal literal, or digits of a base after
its prefix. There is one exception: a prefix may be there twice, and is dropped once more
(`RepeatsPrefix`). All other answers are undefined (`number_ne_nan_iff`).
-/

namespace Parley.Answer

open Text Binary64

variable {cs ds rest : List Char} {c letter : Char} {base n : Nat} {x : Binary64} {s : String}

/-! ### The grammar -/

/-- The letter announces the base. -/
inductive Announces : Char → Nat → Prop
  | hexadecimal {letter : Char} : letter = 'x' ∨ letter = 'X' → Announces letter 16
  | octal {letter : Char} : letter = 'o' ∨ letter = 'O' → Announces letter 8
  | binary {letter : Char} : letter = 'b' ∨ letter = 'B' → Announces letter 2

/-- The digits of a base up to sixteen, in their order. -/
def symbols (base : Nat) : List Char :=
  ['0', '1', '2', '3', '4', '5', '6', '7', '8', '9', 'a', 'b', 'c', 'd', 'e', 'f'].take base

/-- Digits of a base in either case, one at least. -/
structure AreDigitsOf (base : Nat) (ds : List Char) : Prop where
  ne_nil : ds ≠ []
  all : ∀ c ∈ ds, c.toLower ∈ symbols base

/-- The natural number that digits of a base spell by their positions. -/
def positional (base : Nat) (ds : List Char) : Nat :=
  Nat.ofDigits base (ds.map fun c => (symbols base).idxOf c.toLower).reverse

/-- The characters are a prefix of the base, and others after it. -/
def HasPrefix (base : Nat) (rest cs : List Char) : Prop :=
  ∃ letter, Announces letter base ∧ cs = '0' :: letter :: rest

inductive IsNumeral : List Char → Prop
  | blank : IsNumeral []
  | infinity {sign : List Char} : IsSign sign → IsNumeral (sign ++ "Infinity".toList)
  | decimal {cs : List Char} : IsDecimal cs → IsNumeral cs
  | whole {base : Nat} {ds cs : List Char} : AreDigitsOf base ds → HasPrefix base ds cs →
      IsNumeral cs

/-- Digits of a base after two prefixes of it. -/
def RepeatsPrefix (cs : List Char) : Prop :=
  ∃ base rest ds, HasPrefix base rest cs ∧ HasPrefix base ds rest ∧ AreDigitsOf base ds

/-! ### Digits of a base -/

theorem base?_eq_some_iff : base? letter = some base ↔ Announces letter base := by
  unfold base?
  constructor
  · split_ifs with hx ho hb <;> rintro ⟨⟩
    · exact .hexadecimal hx
    · exact .octal ho
    · exact .binary hb
  · rintro (h | h | h) <;> rcases h with rfl | rfl <;> decide

/-- The digits of a base that are ASCII are its symbols. -/
theorem digitBelow?_of_ascii (h : Announces letter base) (hc : c.toNat < 128) :
    digitBelow? base c = if c.toLower ∈ symbols base then
      some ((symbols base).idxOf c.toLower) else none := by
  rw [digitBelow?, alphanumericDigit?, digit?_of_ascii hc]
  -- Three bases, and 128 code points for each.
  obtain ⟨n, hn, rfl⟩ := exists_ofNat hc
  clear hc
  revert n
  cases h <;> decide +kernel

theorem ofDigits_eq (base : Nat) (ds : List Nat) :
    Binary64.ofDigits base ds = Nat.ofDigits base ds.reverse := by
  rw [Nat.ofDigits_eq_foldr, List.foldr_reverse, Binary64.ofDigits]
  congr 1
  funext n d
  simp [Nat.mul_comm, Nat.add_comm]

theorem mapM_digitBelow?_eq_some_iff (h : Announces letter base) (hcs : IsAscii cs)
    {ns : List Nat} : cs.mapM (digitBelow? base) = some ns ↔
      (∀ c ∈ cs, c.toLower ∈ symbols base) ∧
        ns = cs.map fun c => (symbols base).idxOf c.toLower := by
  induction cs generalizing ns with
  | nil => simp [eq_comm]
  | cons c cs ih =>
    obtain ⟨hc, hcs⟩ := List.forall_mem_cons.1 hcs
    rw [List.mapM_cons, digitBelow?_of_ascii h hc, List.forall_mem_cons, List.map_cons]
    by_cases hd : c.toLower ∈ symbols base
    · simp only [hd, true_and, if_true, Option.bind_eq_bind, Option.bind_some,
        Option.bind_eq_some_iff, ih hcs]
      constructor
      · rintro ⟨_, ⟨hall, rfl⟩, hns⟩
        exact ⟨hall, (Option.some.inj hns).symm⟩
      · rintro ⟨hall, rfl⟩
        exact ⟨_, ⟨hall, rfl⟩, rfl⟩
    · simp [hd]

/-- The characters spell the number of their digits, if they are digits of the base. -/
theorem natural?_eq_some_iff (h : Announces letter base) (hcs : IsAscii cs) :
    natural? base cs = some n ↔ AreDigitsOf base cs ∧ n = positional base cs := by
  rw [natural?]
  by_cases hne : cs = []
  · rw [if_pos (List.isEmpty_iff.2 hne)]
    constructor
    · intro hnone
      cases hnone
    · exact fun h => absurd hne h.1.ne_nil
  · rw [if_neg (mt List.isEmpty_iff.1 hne), Option.map_eq_some_iff]
    constructor
    · rintro ⟨ns, hns, rfl⟩
      obtain ⟨hall, rfl⟩ := (mapM_digitBelow?_eq_some_iff h hcs).1 hns
      exact ⟨⟨hne, hall⟩, ofDigits_eq _ _⟩
    · rintro ⟨hdigits, rfl⟩
      exact ⟨_, (mapM_digitBelow?_eq_some_iff h hcs).2 ⟨hdigits.all, rfl⟩, ofDigits_eq _ _⟩

/-! ### Prefixes -/

theorem HasPrefix.unique {base' : Nat} {rest' : List Char} (h : HasPrefix base rest cs)
    (h' : HasPrefix base' rest' cs) : base' = base ∧ rest' = rest := by
  obtain ⟨letter, hletter, rfl⟩ := h
  obtain ⟨letter', hletter', hcs⟩ := h'
  obtain ⟨rfl, rfl⟩ := List.cons.inj (List.cons.inj hcs).2
  rw [← base?_eq_some_iff] at hletter hletter'
  exact ⟨Option.some.inj (hletter'.symm.trans hletter), rfl⟩

theorem HasPrefix.isAscii (h : HasPrefix base rest cs) (hcs : IsAscii cs) : IsAscii rest := by
  obtain ⟨letter, -, rfl⟩ := h
  exact hcs.subset fun c hc => by simp [hc]

/-- The only zero of ASCII is its own. -/
theorem eq_zero_of_ascii (hc : c.toNat < 128) (h : digit? c = some 0) : c = '0' := by
  rw [digit?_of_ascii hc] at h
  obtain ⟨n, hn, rfl⟩ := exists_ofNat hc
  clear hc
  revert n
  decide +kernel

/-- A second prefix is dropped. -/
theorem dropRepeated_of_hasPrefix (h : HasPrefix base rest cs) : dropRepeated base cs = rest := by
  obtain ⟨letter, hletter, rfl⟩ := h
  rw [dropRepeated, if_pos ⟨by decide, base?_eq_some_iff.2 hletter⟩]

theorem dropRepeated_of_not (hcs : IsAscii cs) (h : ∀ rest, ¬HasPrefix base rest cs) :
    dropRepeated base cs = cs := by
  unfold dropRepeated
  split
  · rename_i z letter rest
    refine if_neg fun ⟨hz, hletter⟩ => h rest ⟨letter, base?_eq_some_iff.1 hletter, ?_⟩
    rw [eq_zero_of_ascii (hcs z List.mem_cons_self) hz]
  · rfl

/-- The letter of a prefix is no digit of its base. -/
theorem not_areDigitsOf_of_hasPrefix (h : HasPrefix base rest cs) : ¬AreDigitsOf base cs := by
  obtain ⟨letter, hletter, rfl⟩ := h
  intro hdigits
  have hmem := hdigits.all letter (by simp)
  rcases hletter with h | h | h <;> rcases h with rfl | rfl <;> revert hmem <;> decide

/-- Characters after a prefix spell a natural number if they are digits of its base, a second prefix
    of it aside. -/
theorem natural?_dropRepeated_eq_some_iff (h : Announces letter base) (hcs : IsAscii cs) :
    natural? base (dropRepeated base cs) = some n ↔
      ∃ ds, (ds = cs ∨ HasPrefix base ds cs) ∧ AreDigitsOf base ds ∧ n = positional base ds := by
  by_cases hrepeat : ∃ rest, HasPrefix base rest cs
  · obtain ⟨rest, hrest⟩ := hrepeat
    rw [dropRepeated_of_hasPrefix hrest, natural?_eq_some_iff h (hrest.isAscii hcs)]
    constructor
    · exact fun hn => ⟨rest, .inr hrest, hn⟩
    · rintro ⟨ds, rfl | hds, hn⟩
      · -- With the prefix still there they are no digits.
        exact absurd hn.1 (not_areDigitsOf_of_hasPrefix hrest)
      · obtain ⟨-, rfl⟩ := hrest.unique hds
        exact hn
  · rw [not_exists] at hrepeat
    rw [dropRepeated_of_not hcs hrepeat, natural?_eq_some_iff h hcs]
    constructor
    · exact fun hn => ⟨cs, .inl rfl, hn⟩
    · rintro ⟨ds, rfl | hds, hn⟩
      · exact hn
      · exact absurd hds (hrepeat ds)

/-! ### Numbers after a prefix -/

theorem ofInt?_ne_nan {n : Int} (h : ofInt? n = some x) : x ≠ .nan := by
  rintro rfl
  unfold ofInt? at h
  cases hx : ofRatio (n < 0) n.natAbs 1 with
  | nan => exact Literal.ofUnits_ne_nan _ _ hx
  | infinite | finite =>
    rw [hx] at h
    cases h

theorem numberOf_of_hasPrefix (h : HasPrefix base rest cs) : numberOf cs = prefixed base rest := by
  obtain ⟨letter, hletter, rfl⟩ := h
  simp only [numberOf, base?_eq_some_iff.2 hletter]

theorem prefixed_eq_ok (h : prefixed base cs = .ok x) :
    (natural? base (dropRepeated base cs) = none ∧ x = .nan) ∨
      ∃ n, natural? base (dropRepeated base cs) = some n ∧ ofInt? n = some x := by
  unfold prefixed at h
  cases hn : natural? base (dropRepeated base cs) with
  | none =>
    rw [hn] at h
    exact .inl ⟨rfl, (Except.ok.inj h).symm⟩
  | some n =>
    rw [hn] at h
    simp only at h
    cases hx : ofInt? n with
    | none =>
      rw [hx] at h
      cases h
    | some y =>
      rw [hx] at h
      exact .inr ⟨n, rfl, hx.trans (congrArg some (Except.ok.inj h))⟩

/-- Digits after one prefix or two are read as the natural number that they spell. -/
theorem numberOf_announced (hcs : IsAscii cs) (h : HasPrefix base rest cs)
    (hds : ds = rest ∨ HasPrefix base ds rest) (hdigits : AreDigitsOf base ds)
    (hx : numberOf cs = .ok x) : ofInt? (positional base ds) = some x := by
  have hrest := h.isAscii hcs
  rw [numberOf_of_hasPrefix h] at hx
  obtain ⟨letter, hletter, rfl⟩ := h
  have hn := (natural?_dropRepeated_eq_some_iff hletter hrest).2 ⟨ds, hds, hdigits, rfl⟩
  rcases prefixed_eq_ok hx with ⟨hnone, -⟩ | ⟨n, hn', hx⟩
  · rw [hn] at hnone
    cases hnone
  · rw [hn] at hn'
    obtain rfl := Option.some.inj hn'
    exact hx

/-- After a prefix nothing but its digits and a second prefix is read as a number. -/
theorem announced_of_ne_nan (hcs : IsAscii cs) (h : HasPrefix base rest cs)
    (hx : numberOf cs = .ok x) (hne : x ≠ .nan) :
    ∃ ds, (ds = rest ∨ HasPrefix base ds rest) ∧ AreDigitsOf base ds := by
  have hrest := h.isAscii hcs
  rw [numberOf_of_hasPrefix h] at hx
  obtain ⟨letter, hletter, rfl⟩ := h
  rcases prefixed_eq_ok hx with ⟨-, hnan⟩ | ⟨n, hn, -⟩
  · exact absurd hnan hne
  · obtain ⟨ds, hds, hdigits, -⟩ := (natural?_dropRepeated_eq_some_iff hletter hrest).1 hn
    exact ⟨ds, hds, hdigits⟩

/-! ### Other numbers -/

theorem isSome_infinity?_iff : (infinity? cs).isSome ↔
    ∃ sign, IsSign sign ∧ cs = sign ++ "Infinity".toList := by
  have hlist {s : String} : String.ofList cs = s ↔ cs = s.toList :=
    ⟨fun h => by rw [← h, String.toList_ofList], fun h => by rw [h, String.ofList_toList]⟩
  constructor
  · intro h
    unfold infinity? at h
    split at h
    · exact ⟨_, .none, hlist.1 ‹_›⟩
    · exact ⟨_, .plus, (hlist (s := "+Infinity")).1 ‹_›⟩
    · exact ⟨_, .minus, (hlist (s := "-Infinity")).1 ‹_›⟩
    · cases h
  · rintro ⟨sign, hsign, rfl⟩
    cases hsign <;> rfl

/-- No prefix begins a decimal literal. -/
theorem not_isDecimal_of_hasPrefix (hcs : IsAscii cs) (h : HasPrefix base rest cs) :
    ¬IsDecimal cs := by
  rw [← Literal.parse?_isSome_iff hcs]
  obtain ⟨letter, hletter, rfl⟩ := h
  rcases hletter with h | h | h <;> rcases h with rfl | rfl <;> exact Bool.false_ne_true

theorem decimal_ne_nan_iff (hcs : IsAscii cs) : decimal cs ≠ .nan ↔ IsDecimal cs := by
  rw [← Literal.parse?_isSome_iff hcs, decimal]
  cases Literal.parse? cs with
  | none => simp
  | some l => simp [Literal.value_ne_nan l]

/-- Without a prefix there are the infinities and the decimal literals. -/
theorem numberOf_of_not_hasPrefix (hne : cs ≠ []) (h : ∀ base rest, ¬HasPrefix base rest cs) :
    numberOf cs = .ok ((infinity? cs).getD (decimal cs)) := by
  unfold numberOf
  split
  · exact absurd rfl hne
  · rename_i letter rest
    have hletter : base? letter = none := by
      by_contra hsome
      obtain ⟨base, hbase⟩ := Option.ne_none_iff_exists'.1 hsome
      exact h base rest ⟨letter, base?_eq_some_iff.1 hbase, rfl⟩
    have hinfinity : infinity? ('0' :: letter :: rest) = none := by
      rw [← Option.not_isSome_iff_eq_none, isSome_infinity?_iff]
      rintro ⟨sign, hsign, hcs⟩
      cases hsign <;> exact absurd (List.cons.inj hcs).1 (by decide)
    rw [hletter, hinfinity]
    rfl
  · cases infinity? cs <;> rfl

theorem infinity?_ne_nan (h : infinity? cs = some x) : x ≠ .nan := by
  unfold infinity? at h
  split at h <;> cases h <;> simp

/-- The number is defined if the characters are an infinity or a decimal literal. -/
theorem ne_nan_of_not_hasPrefix_iff (hcs : IsAscii cs) (hne : cs ≠ [])
    (h : ∀ base rest, ¬HasPrefix base rest cs) (hx : numberOf cs = .ok x) : x ≠ .nan ↔
      (∃ sign, IsSign sign ∧ cs = sign ++ "Infinity".toList) ∨ IsDecimal cs := by
  rw [numberOf_of_not_hasPrefix hne h] at hx
  obtain rfl := Except.ok.inj hx
  rw [← isSome_infinity?_iff, ← decimal_ne_nan_iff hcs]
  cases hi : infinity? cs with
  | none => simp
  | some y => simp [infinity?_ne_nan hi]

/-! ### All numbers -/

theorem not_hasPrefix_infinity {sign : List Char} (hs : IsSign sign) :
    ¬HasPrefix base rest (sign ++ "Infinity".toList) := by
  rintro ⟨letter, -, hcs⟩
  cases hs <;> exact absurd (List.cons.inj hcs).1 (by decide)

/-- An answer with a prefix is a numeral if digits of the base follow. -/
theorem isNumeral_of_hasPrefix_iff (hcs : IsAscii cs) (h : HasPrefix base rest cs) :
    IsNumeral cs ↔ AreDigitsOf base rest := by
  refine ⟨fun hn => ?_, fun hdigits => .whole hdigits h⟩
  cases hn with
  | blank =>
    obtain ⟨letter, -, hnil⟩ := h
    cases hnil
  | infinity hs => exact absurd h (not_hasPrefix_infinity hs)
  | decimal hd => exact absurd hd (not_isDecimal_of_hasPrefix hcs h)
  | whole hdigits h' =>
    obtain ⟨rfl, rfl⟩ := h.unique h'
    exact hdigits

theorem numberOf_ne_nan_iff (hcs : IsAscii cs) (hx : numberOf cs = .ok x) :
    x ≠ .nan ↔ IsNumeral cs ∨ RepeatsPrefix cs := by
  by_cases hp : ∃ base rest, HasPrefix base rest cs
  · -- Behind a prefix there are digits of its base, or the prefix again and then digits.
    obtain ⟨base, rest, h⟩ := hp
    rw [isNumeral_of_hasPrefix_iff hcs h]
    constructor
    · intro hne
      obtain ⟨ds, rfl | hds, hdigits⟩ := announced_of_ne_nan hcs h hx hne
      · exact .inl hdigits
      · exact .inr ⟨base, rest, ds, h, hds, hdigits⟩
    · rintro (hdigits | ⟨base', rest', ds, h', hds, hdigits⟩)
      · exact ofInt?_ne_nan (numberOf_announced hcs h (.inl rfl) hdigits hx)
      · exact ofInt?_ne_nan (numberOf_announced hcs h' (.inr hds) hdigits hx)
  · -- Without one the text is blank, an infinity or a decimal.
    simp only [not_exists] at hp
    have hrepeats : ¬RepeatsPrefix cs := fun ⟨base, rest, _, h, _⟩ => hp base rest h
    rw [or_iff_left hrepeats]
    by_cases hne : cs = []
    · subst hne
      obtain rfl : .zero = x := Except.ok.inj hx
      exact ⟨fun _ => .blank, fun _ => nofun⟩
    · rw [ne_nan_of_not_hasPrefix_iff hcs hne hp hx]
      constructor
      · rintro (⟨sign, hs, rfl⟩ | hd)
        · exact .infinity hs
        · exact .decimal hd
      · rintro (_ | hs | hd | ⟨-, h⟩)
        · exact absurd rfl hne
        · exact .inl ⟨_, hs, rfl⟩
        · exact .inr hd
        · exact absurd h (hp _ _)

theorem isAscii_trim (h : IsAscii cs) : IsAscii (trim cs) :=
  h.subset (Text.trim_subset cs)

/-- An answer of ASCII that can be read is a number if and only if it is a numeral, blanks at the
    ends aside, or repeats its prefix. The empty one is zero, and digits of a base after its prefix
    are the number nearest to the natural number that they spell. -/
theorem number_ne_nan_iff (hs : IsAscii s.toList) (hx : number (.text s) = .ok x) :
    (x ≠ .nan ↔ IsNumeral (trim s.toList) ∨ RepeatsPrefix (trim s.toList)) ∧
    (trim s.toList = [] → x = .zero) ∧
    ∀ base rest ds, HasPrefix base rest (trim s.toList) → ds = rest ∨ HasPrefix base ds rest →
      AreDigitsOf base ds → ofInt? (positional base ds) = some x := by
  rw [number_text] at hx
  refine ⟨numberOf_ne_nan_iff (isAscii_trim hs) hx, fun hnil => ?_,
    fun base rest ds h hds hdigits => numberOf_announced (isAscii_trim hs) h hds hdigits hx⟩
  rw [hnil] at hx
  exact (Except.ok.inj hx).symm

/-- Hexadecimal digits between blanks. -/
theorem number_hexadecimal : number (.text " 0x1F ") = .ok (.finite false (31 * Quantity.one)) ∧
    (IsNumeral ['0', 'x', '1', 'F'] ∨ RepeatsPrefix ['0', 'x', '1', 'F']) ∧
    ofInt? (positional 16 ['1', 'F']) = some (.finite false (31 * Quantity.one)) := by
  have hs : IsAscii " 0x1F ".toList := by decide
  have hx : number (.text " 0x1F ") = .ok (.finite false (31 * Quantity.one)) := by decide +kernel
  have htrim : trim " 0x1F ".toList = ['0', 'x', '1', 'F'] := by decide
  have hbegins : HasPrefix 16 ['1', 'F'] ['0', 'x', '1', 'F'] :=
    ⟨'x', .hexadecimal (.inl rfl), rfl⟩
  obtain ⟨hiff, -, hvalue⟩ := number_ne_nan_iff hs hx
  rw [htrim] at hiff hvalue
  have hdigits : AreDigitsOf 16 ['1', 'F'] :=
    ⟨by simp, List.forall_mem_cons.2 ⟨by decide, List.forall_mem_singleton.2 (by decide)⟩⟩
  exact ⟨hx, hiff.1 (by simp), hvalue 16 _ _ hbegins (.inl rfl) hdigits⟩

/-- A prefix that is repeated makes no numeral, and the answer is read as a number. -/
theorem number_repeated_prefix : ¬IsNumeral (trim "0x0x3".toList) ∧
    number (.text "0x0x3") = .ok (.finite false (3 * Quantity.one)) := by
  have htrim : trim "0x0x3".toList = ['0', 'x', '0', 'x', '3'] := by decide
  have hascii : IsAscii ['0', 'x', '0', 'x', '3'] := by decide
  have hbegins (rest : List Char) : HasPrefix 16 rest ('0' :: 'x' :: rest) :=
    ⟨'x', .hexadecimal (.inl rfl), rfl⟩
  refine ⟨?_, by decide +kernel⟩
  rw [htrim, isNumeral_of_hasPrefix_iff hascii (hbegins _)]
  exact not_areDigitsOf_of_hasPrefix (hbegins ['3'])

end Parley.Answer

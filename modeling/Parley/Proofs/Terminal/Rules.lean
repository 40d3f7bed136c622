import Parley.Terminal.Screen

/-!
# The rules of markup

A screen may draw marked-up texts in a way of its own. What it takes for markup is settled by a few
rules only (`Screen.ReadsMarkup`), which speak of texts put together from words, tags with a
backslash before them, tags that open a style, and tags that close the last open one (`Segment`):

* a text in which every closing tag has something to close is drawn as its words and its escaped
  tags, of which the backslashes are dropped;
* a closing tag without anything to close makes the text invalid, whatever follows it.

A name with a parenthesis may be that of a colour, and a handler takes parameters; the rules leave
such tags aside. From the rules it follows what becomes of all texts of such segments
(`Screen.ReadsMarkup.line_written`).
-/

namespace Parley.Terminal

namespace Markup

/-! ### Texts in segments -/

/-- What can stand between the brackets of a tag. -/
def IsTag (content : List Char) : Prop :=
  content.head?.any isTagStart ∧ '[' ∉ content ∧ ']' ∉ content

instance (content : List Char) : Decidable (IsTag content) :=
  inferInstanceAs (Decidable (_ ∧ _))

/-- The text in brackets. -/
def bracketed (content : List Char) : List Char :=
  '[' :: content ++ [']']

/-- The character means nothing to markup and is kept by every terminal text. -/
def isOrdinary (c : Char) : Bool :=
  c ≠ '[' && c ≠ '\\' && c ≠ ':' && !isStripped c

/-- A segment of a marked-up text. -/
inductive Segment where
  | words (cs : List Char)
  /-- A tag with a backslash before it. -/
  | escaped (content : List Char)
  /-- A tag that opens a style. -/
  | opening (content : List Char)
  /-- A tag that closes the last open style. -/
  | closing

namespace Segment

/-- The segment as it stands in the text. -/
def written : Segment → List Char
  | .words cs => cs
  | .escaped content => '\\' :: bracketed content
  | .opening content => bracketed content
  | .closing => bracketed ['/']

/-- What is left of the segment on a screen. -/
def shown : Segment → List Char
  | .words cs => cs
  | .escaped content => bracketed content
  | .opening _ | .closing => []

/-- The segment is what it is called. -/
def IsProper : Segment → Prop
  | .words cs => cs.all isOrdinary
  | .escaped content => IsTag content ∧ content.all isOrdinary
  | .opening content =>
    IsTag content ∧ content.head? ≠ some '/' ∧ content.head? ≠ some '@' ∧ '(' ∉ content
  | .closing => True

instance : DecidablePred IsProper
  | .words cs => inferInstanceAs (Decidable (cs.all isOrdinary = true))
  | .escaped _ | .opening _ => inferInstanceAs (Decidable (_ ∧ _))
  | .closing => inferInstanceAs (Decidable True)

def isWords : Segment → Bool
  | .words _ => true
  | _ => false

end Segment

def written (ps : List Segment) : List Char :=
  ps.flatMap Segment.written

def shownOf (ps : List Segment) : List Char :=
  ps.flatMap Segment.shown

/-- The number of styles that are open after the segments, if they are `n` before them and each
    closing tag has one to close. -/
def depth : (n : Nat) → List Segment → Option Nat
  | n, [] => some n
  | n, .opening _ :: ps => depth (n + 1) ps
  | 0, .closing :: _ => none
  | n + 1, .closing :: ps => depth n ps
  | n, .words _ :: ps | n, .escaped _ :: ps => depth n ps

@[simp] theorem written_cons (p : Segment) (ps : List Segment) :
    written (p :: ps) = p.written ++ written ps := rfl

@[simp] theorem shownOf_cons (p : Segment) (ps : List Segment) :
    shownOf (p :: ps) = p.shown ++ shownOf ps := rfl

theorem written_append (ps qs : List Segment) : written (ps ++ qs) = written ps ++ written qs :=
  List.flatMap_append

theorem Segment.length_shown_le (p : Segment) : p.shown.length ≤ p.written.length := by
  cases p <;> simp [Segment.shown, Segment.written]

theorem length_shownOf_le (ps : List Segment) : (shownOf ps).length ≤ (written ps).length := by
  induction ps with
  | nil => exact Nat.le_refl 0
  | cons p ps ih =>
    rw [shownOf_cons, written_cons, List.length_append, List.length_append]
    exact Nat.add_le_add p.length_shown_le ih

/-- Only words are shown as they are written. -/
theorem shownOf_eq_written_iff {ps : List Segment} :
    shownOf ps = written ps ↔ ∀ p ∈ ps, p.isWords := by
  induction ps with
  | nil => exact iff_of_true rfl nofun
  | cons p ps ih =>
    rw [List.forall_mem_cons, ← ih, shownOf_cons, written_cons]
    cases p with
    | words cs => simp [Segment.shown, Segment.written, Segment.isWords]
    | _ =>
      -- Every other segment loses a character.
      refine iff_of_false (fun h => ?_) (by simp [Segment.isWords])
      have hlen := congrArg List.length h
      have hle := length_shownOf_le ps
      simp [Segment.shown, Segment.written, bracketed] at hlen
      omega

/-- A closing tag is the first that has nothing to close. -/
theorem exists_unmatched {n : Nat} {ps : List Segment} (h : depth n ps = none) :
    ∃ qs rs, ps = qs ++ .closing :: rs ∧ depth n qs = some 0 := by
  fun_induction depth n ps with
  | case1 => cases h
  | case3 ps => exact ⟨[], ps, rfl, rfl⟩
  | _ =>
    rename_i ih
    obtain ⟨qs, rs, rfl, hqs⟩ := ih h
    exact ⟨_ :: qs, rs, rfl, hqs⟩

end Markup

/-! ### Screens -/

open Markup

/-- The screen keeps to the rules of markup. -/
structure Screen.ReadsMarkup (s : Screen) : Prop where
  line_matched : ∀ ps : List Segment, (∀ p ∈ ps, p.IsProper) → (depth 0 ps).isSome →
    s.line (written ps) = .ok (s.plain (shownOf ps))
  line_unmatched : ∀ (ps : List Segment) (name after : List Char), (∀ p ∈ ps, p.IsProper) →
    depth 0 ps = some 0 → IsTag ('/' :: name) → '(' ∉ name →
    s.line (written ps ++ (bracketed ('/' :: name) ++ after)) = .error .markup

namespace Screen.ReadsMarkup

variable {s : Screen} {ps : List Segment}

/-- What becomes of a text in segments. -/
theorem line_written (h : s.ReadsMarkup) (hps : ∀ p ∈ ps, p.IsProper) : s.line (written ps) =
    if (depth 0 ps).isSome then .ok (s.plain (shownOf ps)) else .error .markup := by
  split
  · exact h.line_matched ps hps ‹_›
  · rename_i hnone
    obtain ⟨qs, rs, rfl, hqs⟩ := exists_unmatched (Option.not_isSome_iff_eq_none.1 hnone)
    rw [written_append]
    exact h.line_unmatched qs [] (written rs) (fun p hp => hps p (List.mem_append_left _ hp)) hqs
      (by decide) (by decide)

end Screen.ReadsMarkup

end Parley.Terminal

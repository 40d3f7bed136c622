import Parley.Handler
import Parley.Proofs.Template

/-!
# Rendering from the state

The transform that fills in a template shows the values of the state. It replaces each name once
and takes the value as it is, so that what a user has typed is never read as a template, and it
looks at no key that the text does not name.

* `rendered_append`: a text is rendered piece by piece around a name in braces;
* `rendered_congr`: two states that agree on the named keys render a text alike;
* `template_fills_names_once`: both together, for the transform.
-/

namespace Parley.Transform

open Template

variable {state state' : Mapping} {before key after s : String}

/-- What stands for a name in braces: the text of its value, or the placeholder itself. -/
def shown (state : Mapping) (key : String) : String :=
  match Mapping.find? state (.text key) with
  | some v => v.plain
  | none => "$\x7b" ++ key ++ "\x7d"

/-- The text before the placeholder may end in dollar signs that are paired with each other. -/
theorem rendered_append (hkey : isName key.toList)
    (heven : Even (before.toList.rtakeWhile (· = '$')).length) :
    rendered state (before ++ "$\x7b" ++ key ++ "\x7d" ++ after) =
      rendered state before ++ shown state key ++ rendered state after := by
  have hname : name (key.toList ++ '}' :: after.toList) = key.toList :=
    (name_append_cons (by decide) (by decide)).trans (name_eq_self hkey)
  have hne : key.toList ≠ [] := by
    intro h
    rw [h] at hkey
    cases hkey
  have hs : (before ++ "$\x7b" ++ key ++ "\x7d" ++ after).toList =
      before.toList ++ '$' :: '{' :: (key.toList ++ '}' :: after.toList) := by
    simp
  have hshown : ((textOf? state key).map String.toList).getD
      ('$' :: '{' :: (key.toList ++ ['}'])) = (shown state key).toList := by
    rw [textOf?, shown]
    cases Mapping.find? state (.text key) with
    | some v => rfl
    | none => simp
  rw [rendered, render, hs, fill_append_of_even heven, fill_braced hname hne,
    String.ofList_toList, hshown, ← List.append_assoc, String.ofList_append, String.ofList_append,
    String.ofList_toList]
  rfl

theorem rendered_eq_self (h : '$' ∉ s.toList) : rendered state s = s := by
  rw [rendered, render, fill_eq_self h, String.ofList_toList]

theorem rendered_congr
    (h : ∀ key, isName key.toList → Mentions key.toList s.toList →
      textOf? state key = textOf? state' key) : rendered state s = rendered state' s := by
  refine congrArg String.ofList (fill_congr fun key hname hkey => ?_)
  exact h (String.ofList key) (by rwa [String.toList_ofList]) (by rwa [String.toList_ofList])

/-- The template transform keeps the kind of its payload and renders its text, in a state of
    values that can be written. There it replaces a name in braces by the text of its value, or
    leaves it if it has none, and renders what is before and after on its own; a text without
    dollar signs stays; and no key matters but those named in the text. -/
theorem template_fills_names_once (state : Mapping) :
    (∀ s, template state (some (.text s)) =
        (if state.isWritable then .ok (some (.text (rendered state s)))
          else .error (.misuse .digits)) ∧
      template state (some (.markdown s)) =
        (if state.isWritable then .ok (some (.markdown (rendered state s)))
          else .error (.misuse .digits))) ∧
    (∀ before key after : String, isName key.toList →
      Even (before.toList.rtakeWhile (· = '$')).length →
      rendered state (before ++ "$\x7b" ++ key ++ "\x7d" ++ after) =
        rendered state before ++ shown state key ++ rendered state after) ∧
    (∀ s : String, '$' ∉ s.toList → rendered state s = s) ∧
    (∀ (state' : Mapping) (s : String),
      (∀ key : String, isName key.toList → Mentions key.toList s.toList →
        textOf? state key = textOf? state' key) →
      rendered state s = rendered state' s) :=
  ⟨fun _ => ⟨rfl, rfl⟩, fun _ _ _ => rendered_append, fun _ => rendered_eq_self,
    fun _ _ => rendered_congr⟩

/-- A placeholder that a user has typed as a name is shown as it was typed. -/
theorem rendered_of_typed_placeholder :
    let state : Mapping := [(.text "name", .text "$\x7bother\x7d $$"), (.text "other", .int 1)]
    let state' : Mapping := state ++ [(.text "e-mail", .text "ada")]
    let before := "Hi $$"
    isName "name".toList ∧ Even (before.toList.rtakeWhile (· = '$')).length ∧
    '$' ∉ ", bye".toList ∧
    (∀ key : String, isName key.toList → Mentions key.toList (before ++ ", bye").toList →
      textOf? state key = textOf? state' key) ∧
    rendered state (before ++ "$\x7b" ++ "name" ++ "\x7d" ++ ", bye") =
      rendered state before ++ "$\x7bother\x7d $$" ++ ", bye" ∧
    rendered state (before ++ ", bye") = rendered state' (before ++ ", bye") := by
  intro state state' before
  have hname : isName "name".toList := by decide
  have heven : Even (before.toList.rtakeWhile (· = '$')).length := ⟨1, by decide⟩
  have hplain : '$' ∉ ", bye".toList := by decide
  have hagree : ∀ key : String, isName key.toList →
      Mentions key.toList (before ++ ", bye").toList → textOf? state key = textOf? state' key := by
    intro key hkey _
    have hne : "e-mail" ≠ key := by
      rintro rfl
      exact absurd hkey (by decide)
    have hfind : Mapping.find? state' (.text key) = Mapping.find? state (.text key) := by
      simp [Mapping.find?, state', List.find?_append, hne]
    rw [textOf?, textOf?, hfind]
  obtain ⟨-, hfills, hplainly, hnamed⟩ := template_fills_names_once state
  refine ⟨hname, heven, hplain, hagree, ?_, hnamed _ _ hagree⟩
  rw [hfills _ _ _ hname heven, hplainly _ hplain]
  rfl

end Parley.Transform

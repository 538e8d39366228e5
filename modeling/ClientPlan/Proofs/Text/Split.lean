import Mathlib.Data.List.Basic
import ClientPlan.Text.Replace

/-! # Parts between separators

A text is split at each separator, whatever else it holds. Mappings that leave the separators alone
map it part by part.
-/

namespace ClientPlan.Text

variable {separator : Char}

theorem splitOn_eq (separator : Char) (text : List Char) :
    splitOn separator text = List.splitOn separator text := by
  induction text with
  | nil => rfl
  | cons c rest ih =>
      rw [splitOn, List.splitOn_cons_eq_if_modifyHead, ih]
      by_cases hc : c = separator
      · simp [hc]
      · rw [if_neg hc, if_neg (by simpa using hc)]
        cases hparts : List.splitOn separator rest with
        | nil => exact absurd hparts (List.splitOn_ne_nil separator rest)
        | cons part parts => rfl

theorem splitOn_of_not_mem {text : List Char} (htext : separator ∉ text) :
    splitOn separator text = [text] := by
  rw [splitOn_eq, List.splitOn_eq_singleton htext]

theorem splitOn_append_cons (first second : List Char) :
    splitOn separator (first ++ separator :: second) =
      splitOn separator first ++ splitOn separator second := by
  rw [splitOn_eq, splitOn_eq, splitOn_eq, List.splitOn_append_cons_self]

/-- A text has one part, or a first part and a rest. -/
theorem parts_induction (separator : Char) {motive : List Char → Prop}
    (last : ∀ text, separator ∉ text → motive text)
    (more : ∀ first rest, separator ∉ first → motive rest → motive (first ++ separator :: rest))
    (text : List Char) : motive text := by
  by_cases hsep : separator ∈ text
  · obtain ⟨first, rest, htext, hfirst⟩ := List.eq_append_cons_of_mem hsep
    rw [htext]
    exact more first rest hfirst (parts_induction separator last more rest)
  · exact last text hsep
  termination_by text.length
  decreasing_by simp only [htext, List.length_append, List.length_cons]; omega

/-- What is put behind a text goes to its last part. -/
theorem exists_splitOn_append {suffix : List Char} (hsuffix : separator ∉ suffix)
    (text : List Char) :
    ∃ parts last, splitOn separator text = parts ++ [last] ∧
      splitOn separator (text ++ suffix) = parts ++ [last ++ suffix] := by
  induction text using parts_induction separator with
  | last text htext =>
      have happend : separator ∉ text ++ suffix := by simp [htext, hsuffix]
      exact ⟨[], text, splitOn_of_not_mem htext, splitOn_of_not_mem happend⟩
  | more first rest hfirst ih =>
      obtain ⟨parts, last, hparts, hlast⟩ := ih
      refine ⟨first :: parts, last, ?_, ?_⟩
      · rw [splitOn_append_cons, splitOn_of_not_mem hfirst, hparts]
        rfl
      · rw [List.append_assoc, List.cons_append, splitOn_append_cons, splitOn_of_not_mem hfirst,
          hlast]
        rfl

/-- A mapping that keeps the separators of a text, and makes no others. -/
structure KeepsParts (separator : Char) (f : List Char → List Char) : Prop where
  append_cons : ∀ first rest, f (first ++ separator :: rest) = f first ++ separator :: f rest
  not_mem : ∀ text, separator ∉ text → separator ∉ f text

theorem KeepsParts.comp {f g : List Char → List Char} (hf : KeepsParts separator f)
    (hg : KeepsParts separator g) : KeepsParts separator (f ∘ g) where
  append_cons first rest := by
    simp only [Function.comp, hg.append_cons, hf.append_cons]
  not_mem text htext := hf.not_mem _ (hg.not_mem text htext)

theorem KeepsParts.splitOn {f : List Char → List Char} (hf : KeepsParts separator f)
    (text : List Char) : splitOn separator (f text) = (splitOn separator text).map f := by
  induction text using parts_induction separator with
  | last text htext =>
      rw [splitOn_of_not_mem htext, splitOn_of_not_mem (hf.not_mem text htext)]
      rfl
  | more first rest hfirst ih =>
      rw [hf.append_cons, splitOn_append_cons, splitOn_append_cons, List.map_append, ih,
        splitOn_of_not_mem hfirst, splitOn_of_not_mem (hf.not_mem first hfirst)]
      rfl

end ClientPlan.Text

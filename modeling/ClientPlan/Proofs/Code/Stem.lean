import ClientPlan.Code.Stem
import ClientPlan.Proofs.Text.Replace

/-! # Names that are found

The look-up of an imported name rewrites marks of paths. A name without such marks is one step of
a path and stands for itself, so it finds every model of that name.
-/

namespace ClientPlan.Code

open Client Text

/-- The characters that make a name more than one step, or another one. -/
def stepMarks : List Char :=
  ['/', '[', ']', '"', '~']

/-- A name that a path holds as it is. -/
def IsPlainStep (name : String) : Prop :=
  ∀ mark ∈ stepMarks, mark ∉ name.toList

instance (name : String) : Decidable (IsPlainStep name) :=
  List.decidableBAll _ stepMarks

theorem foldl_replace_of_not_mem {marks : List (String × String)} {text : List Char}
    (hmarks : ∀ mark ∈ marks, ∃ c ∈ mark.1.toList, c ∉ text) :
    marks.foldl (fun text mark => replace mark.1.toList mark.2.toList text) text = text := by
  induction marks with
  | nil => rfl
  | cons mark marks ih =>
      obtain ⟨hmark, hmarks⟩ := List.forall_mem_cons.mp hmarks
      obtain ⟨c, hc, htext⟩ := hmark
      rw [List.foldl_cons, replace_of_not_mem hc htext, ih hmarks]

/-- Each mark of a path is or holds a slash or a bracket. -/
theorem exists_bracket_of_mem_pathMarks {mark : String × String} (hmark : mark ∈ pathMarks) :
    ∃ c ∈ mark.1.toList, c ∈ stepMarks ∧ c ≠ '"' := by
  have hmarks : (pathMarks.all fun mark =>
      mark.1.toList.any fun c => stepMarks.contains c && c != '"') = true := by decide
  obtain ⟨c, hc, hbracket⟩ := List.any_eq_true.mp (List.all_eq_true.mp hmarks mark hmark)
  rw [Bool.and_eq_true, List.contains_iff_mem, bne_iff_ne] at hbracket
  exact ⟨c, hc, hbracket⟩

theorem pathSteps_nil (fuel : Nat) : pathSteps fuel [] = [] := by
  cases fuel <;> rfl

section

variable {name : String} (hname : IsPlainStep name)

include hname

theorem namePath_of_isPlainStep : namePath name = '"' :: (name.toList ++ ['"']) := by
  rw [namePath]
  refine foldl_replace_of_not_mem fun mark hmark => ?_
  obtain ⟨c, hc, hstep, hquote⟩ := exists_bracket_of_mem_pathMarks hmark
  refine ⟨c, hc, ?_⟩
  simp only [List.mem_append, List.mem_cons, List.not_mem_nil, or_false, hquote, false_or]
  exact hname c hstep

theorem pathSteps_of_isPlainStep (fuel : Nat) :
    pathSteps (fuel + 1) ('"' :: (name.toList ++ ['"'])) = [name.toList] := by
  have hquote : '"' ∉ name.toList := hname '"' (by decide)
  have hsplit := splitOnce_append hquote []
  rw [pathSteps]
  · rw [if_pos rfl, hsplit]
    exact congrArg (name.toList :: ·) (pathSteps_nil fuel)
  · decide

theorem stepName_of_isPlainStep : stepName name.toList = name := by
  have htilde : '~' ∉ name.toList := hname '~' (by decide)
  rw [stepName, replace_of_not_mem (by decide) htilde, replace_of_not_mem (by decide) htilde,
    String.ofList_toList]

theorem stem?_of_isPlainStep (models : List Model) :
    stem? models name = (models.find? fun model => model.name = name).map Model.fileName := by
  simp only [stem?, namePath_of_isPlainStep hname, List.length_cons,
    pathSteps_of_isPlainStep hname, stepName_of_isPlainStep hname]

end

end ClientPlan.Code

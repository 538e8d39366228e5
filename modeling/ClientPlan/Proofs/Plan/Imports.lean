import ClientPlan.Proofs.Code.Stem
import ClientPlan.Proofs.Plan.Outcome
import ClientPlan.Rendering

/-! # The imports of a tag are found

A tag imports the models that its types mention. Mentions are read as identifiers, and a model
whose name is an identifier is always found, so the files of a tag never fail for their imports.
-/

namespace ClientPlan.Plan

open Client Text

/-! ## Identifiers in types -/

/-- Characters of identifiers. -/
def isWordChar (c : Char) : Bool :=
  startsWord c || isAsciiDigit c

theorem isWordChar_of_mem_wordsAfter {word text : List Char}
    (hword : ∀ c ∈ word, isWordChar c = true) :
    ∀ name ∈ wordsAfter word text, ∀ c ∈ name.toList, isWordChar c = true := by
  have hread : ∀ word : List Char, (∀ c ∈ word, isWordChar c = true) →
      ∀ name ∈ (if word.isEmpty then [] else [String.ofList word.reverse]),
        ∀ c ∈ name.toList, isWordChar c = true := by
    intro word hword name hname
    split at hname
    next => exact absurd hname List.not_mem_nil
    next =>
      obtain rfl := List.mem_singleton.mp hname
      simpa using hword
  induction text generalizing word with
  | nil => exact hread word hword
  | cons d rest ih =>
      rw [wordsAfter]
      split
      next hd =>
        -- A digit is read only behind what an identifier may begin with, but is a word character.
        have hchar : isWordChar d = true := by
          rw [isWordChar]
          revert hd
          cases startsWord d <;> cases word.isEmpty <;> simp
        exact ih (List.forall_mem_cons.mpr ⟨hchar, hword⟩)
      next =>
        intro name hname
        rcases List.mem_append.mp hname with hname | hname
        · exact hread word hword name hname
        · exact ih (fun c hc => absurd hc List.not_mem_nil) name hname

theorem isPlainStep_of_isWordChar {name : String}
    (hname : ∀ c ∈ name.toList, isWordChar c = true) : Code.IsPlainStep name := by
  intro mark hmark hmem
  have hmarks : (Code.stepMarks.all fun mark => !isWordChar mark) = true := by decide
  have hnot := List.all_eq_true.mp hmarks mark hmark
  rw [hname mark hmem] at hnot
  cases hnot

/-- Mentioned models are models, under names that are identifiers. -/
theorem mem_mentionedModels {models : List String} {ops : List Operation} :
    ∀ name ∈ mentionedModels models ops,
      name ∈ models ∧ ∀ c ∈ name.toList, isWordChar c = true := by
  rw [mentionedModels]
  refine List.foldlRecOn (motive := fun found : List String =>
    ∀ name ∈ found, name ∈ models ∧ ∀ c ∈ name.toList, isWordChar c = true) _ _ ?_ ?_
  · intro name hname
    exact absurd hname List.not_mem_nil
  intro found hfound word hword name hname
  split at hname
  next hnew =>
    rcases List.mem_append.mp hname with hname | hname
    · exact hfound name hname
    · obtain rfl := List.mem_singleton.mp hname
      obtain ⟨type, _, hread⟩ := List.mem_flatMap.mp hword
      simp only [Bool.and_eq_true, List.contains_iff_mem] at hnew
      exact ⟨hnew.1,
        isWordChar_of_mem_wordsAfter (fun c hc => absurd hc List.not_mem_nil) name hread⟩
  next => exact hfound name hname

/-- The models that operations mention are the words of their types that name models. -/
theorem mentionedModels_eq (models : List String) (ops : List Operation) :
    mentionedModels models ops =
      ((ops.flatMap fun op => (mentionedTypes op).flatMap words).filter
        (· ∈ models)).eraseDups := by
  rw [mentionedModels, List.flatMap_assoc]
  generalize ops.flatMap (fun op => (mentionedTypes op).flatMap words) = found
  induction found using List.reverseRecOn with
  | nil => rfl
  | append_singleton found word ih =>
      rw [List.foldl_append, ih, List.filter_append]
      by_cases hmodel : word ∈ models
      · simp [hmodel, eraseDups_append_singleton]
      · simp [hmodel]

/-! ## Finding models -/

section

variable {options : Options} {document : OpenApi.Document} {plan : Plan}
  (hplan : ofDocument (.angular options) document = .ok plan)

include hplan

theorem stem?_of_mem {name : String} (hname : name ∈ plan.models.map Model.name)
    (hplain : Code.IsPlainStep name) : Code.stem? plan.models name = some (Name.slug name) := by
  rw [Code.stem?_of_isPlainStep hplain]
  obtain ⟨model, hmodel, rfl⟩ := List.mem_map.mp hname
  have hsome : (plan.models.find? fun other => other.name = model.name).isSome = true :=
    List.find?_isSome.mpr ⟨model, hmodel, by simp⟩
  obtain ⟨found, hfound⟩ := Option.isSome_iff_exists.mp hsome
  have hname : found.name = model.name := by simpa using List.find?_some hfound
  rw [hfound, Option.map_some, fileName_of_mem_models hplan (List.mem_of_find?_eq_some hfound),
    hname]

theorem imports?_of_ok {api : Api} (hapi : api ∈ plan.apis) (folder : String) :
    plan.imports? folder api.imports =
      some (api.imports.map fun name => ⟨[name], folder ++ Name.slug name⟩) := by
  refine mapM_eq_some_map fun name hname => ?_
  rw [eq_ofGroup_of_ok hplan hapi] at hname
  obtain ⟨hmodel, hword⟩ := mem_mentionedModels name hname
  rw [stem?_of_mem hplan hmodel (isPlainStep_of_isWordChar hword)]
  rfl

end

end ClientPlan.Plan

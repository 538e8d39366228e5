import Mathlib.Data.List.Forall2
import ClientPlan.Proofs.OpenApi.TypeForm
import ClientPlan.Proofs.OpenApi.Walk
import ClientPlan.Proofs.OrderedMap

/-! # The imports of a model, in order

A model imports its parents, and then what a walk through its properties and its schema meets, each
component where it is met first. That is enough for all that is written in the model.
-/

namespace ClientPlan.Outline

open OpenApi

theorem foldl_addNew_eq (met names : List String) :
    met.foldl addNew names = names ++ (met.filter (· ∉ names)).eraseDups := by
  induction met using List.reverseRecOn with
  | nil => exact (List.append_nil _).symm
  | append_singleton met name ih =>
      rw [List.foldl_append, List.foldl_cons, List.foldl_nil, ih, addNew, List.filter_append]
      by_cases hlisted : name ∈ names
      · simp [hlisted]
      · by_cases hmet : name ∈ met <;>
          simp [hlisted, hmet, eraseDups_append_singleton]

section

variable (name : String) (schema : Schema)

theorem filter_parents : (parents name schema).filter (· ≠ name) = parents name schema := by
  rw [List.filter_eq_self]
  intro parent hparent
  exact (List.mem_filter.mp hparent).2

/-- The names that a walk through the properties and then the schema itself meets. -/
def namesMet (properties : OrderedMap Schema) : List String :=
  ((properties.map Prod.snd ++ [schema]).flatMap Schema.walk).filterMap Schema.target?

theorem references_eq_namesMet (properties : OrderedMap Schema) :
    properties.flatMap (fun entry => references entry.2) ++ references schema =
      namesMet schema properties := by
  rw [namesMet, List.filterMap_flatMap, List.flatMap_append, List.flatMap_map]
  simp only [references_eq_walk, List.flatMap_singleton]

theorem imports_eq (properties : OrderedMap Schema) :
    imports name schema properties =
      parents name schema ++
        ((namesMet schema properties).filter
          fun other => other ∉ parents name schema ∧ other ≠ name).eraseDups := by
  -- No parent is the model itself, so parents pass its filter and the rest is told from them.
  rw [imports, references_eq_namesMet, foldl_addNew_eq, List.filter_append, filter_parents,
    filter_eraseDups, List.filter_filter]
  congr 2
  refine List.filter_congr fun other _ => ?_
  rw [Bool.decide_and, Bool.and_comm]

end

/-- What a model refers to is imported, unless it is the model itself. -/
theorem mem_imports_or_eq {document : Document} {schema : Schema} {target : String}
    (hrefers : RefersTo document schema target) (name : String) :
    target ∈ imports name schema (merged document schema).properties ∨ target = name := by
  by_cases hself : target = name
  · exact .inr hself
  · exact .inl (mem_imports.mpr ⟨hrefers, hself⟩)

/-- The imports of a model are its parents and then, each once, the other components that a walk
meets. Whatever component is written for a property or as the type that the model stands for, and
every component that it extends, is imported, unless it is the model itself. -/
theorem model_imports (document : Document) (flavour : Flavour) (name : String)
    (schema : Schema) :
    let outlined := model document flavour name schema
    let properties := (merged document schema).properties
    let Imported := fun target => target ∈ outlined.imports ∨ target = name
    outlined.parents =
        ((schema.allOf.getD []).filterMap Schema.target?).filter (fun parent => parent ≠ name) ∧
      outlined.imports = outlined.parents ++
        ((namesMet schema properties).filter
          fun other => other ∉ outlined.parents ∧ other ≠ name).eraseDups ∧
      (∀ member ∈ schema.allOf.getD [], ∀ target, member.target? = some target →
        Imported target) ∧
      List.Forall₂ (fun property entry => property.dataType = entry.2.form.text ∧
          ∀ target, entry.2.form.component? = some target → Imported target)
        outlined.properties properties ∧
      (∀ type, outlined.aliasOf = some type → type = schema.form.text ∧
        ∀ target, schema.form.component? = some target → Imported target) := by
  intro outlined properties Imported
  refine ⟨rfl, imports_eq name schema properties, ?_, ?_, ?_⟩
  · intro member hmember target htarget
    exact mem_imports_or_eq (.inl (mem_references_of_mem_allOf hmember htarget)) name
  · refine List.forall₂_map_left_iff.mpr (List.forall₂_same.mpr fun entry hentry => ⟨?_, ?_⟩)
    · exact (Schema.text_form entry.2).symm
    · intro target hwritten
      have hmet := Schema.mem_references_of_component?_form hwritten
      exact mem_imports_or_eq (.inr ⟨entry, hentry, hmet⟩) name
  · intro type htype
    refine ⟨?_, fun target hwritten => ?_⟩
    · rw [Schema.text_form]
      simp only [outlined, model] at htype
      split at htype
      next => exact (Option.some.inj htype).symm
      next => cases htype
    · exact mem_imports_or_eq (.inl (Schema.mem_references_of_component?_form hwritten)) name

end ClientPlan.Outline

import ClientPlan.Outline.Models

/-! # What a model imports

A model imports what its schema and its merged properties refer to, and never itself.
-/

namespace ClientPlan.Outline

open OpenApi

/-- The schema of a component, or of one of its merged properties, refers to a component. -/
def RefersTo (document : Document) (schema : Schema) (target : String) : Prop :=
  target ∈ references schema ∨
    ∃ entry ∈ (merged document schema).properties, target ∈ references entry.2

theorem mem_foldl_addNew {met names : List String} {name : String} :
    name ∈ met.foldl addNew names ↔ name ∈ names ∨ name ∈ met := by
  induction met generalizing names with
  | nil => simp
  | cons head tail ih =>
      rw [List.foldl_cons, ih, addNew]
      split
      next hmem =>
        rw [List.mem_cons]
        constructor
        · rintro (hname | hname)
          · exact Or.inl hname
          · exact Or.inr (Or.inr hname)
        · rintro (hname | rfl | hname)
          · exact Or.inl hname
          · exact Or.inl hmem
          · exact Or.inr hname
      next => rw [List.mem_append, List.mem_singleton, List.mem_cons, or_assoc]

theorem mem_memberReferences {members : List Schema} {target : String} :
    target ∈ memberReferences members ↔ ∃ member ∈ members, target ∈ references member := by
  induction members with
  | nil => simp [memberReferences]
  | cons member members ih =>
      simp only [memberReferences, List.mem_append, List.mem_cons, exists_eq_or_imp, ih]

/-- The references of a schema, by its fields. -/
theorem references_eq (schema : Schema) :
    references schema =
      schema.target?.toList ++ optionalPropertyReferences schema.properties ++
        optionalMemberReferences schema.allOf ++ optionalMemberReferences schema.anyOf ++
        optionalMemberReferences schema.oneOf ++ itemReferences schema.items ++
        valueReferences schema.additionalProperties := by
  obtain ⟨_, reference, _, _, _, _, _, _, _, _, _, _⟩ := schema
  cases reference <;> rw [references] <;> rfl

theorem mem_references_of_target? {schema : Schema} {target : String}
    (htarget : schema.target? = some target) : target ∈ references schema := by
  rw [references_eq, htarget]
  simp

theorem mem_references_of_mem_allOf {schema member : Schema} {target : String}
    (hmember : member ∈ schema.allOf.getD []) (htarget : member.target? = some target) :
    target ∈ references schema := by
  cases hall : schema.allOf with
  | none => simp [hall] at hmember
  | some members =>
      rw [hall] at hmember
      have hmem : target ∈ optionalMemberReferences (some members) :=
        mem_memberReferences.mpr ⟨member, hmember, mem_references_of_target? htarget⟩
      rw [references_eq, hall]
      simp [hmem]

/-- Parents are references of the schema. -/
theorem mem_references_of_mem_parents {name : String} {schema : Schema} {target : String}
    (htarget : target ∈ parents name schema) : target ∈ references schema := by
  rw [parents, List.mem_filter] at htarget
  obtain ⟨member, hmember, hfound⟩ := List.mem_filterMap.mp htarget.1
  exact mem_references_of_mem_allOf hmember hfound

theorem mem_imports {document : Document} {name : String} {schema : Schema} {target : String} :
    target ∈ imports name schema (merged document schema).properties ↔
      RefersTo document schema target ∧ target ≠ name := by
  rw [imports, List.mem_filter, mem_foldl_addNew, List.mem_append, List.mem_flatMap,
    decide_eq_true_eq, RefersTo]
  refine and_congr_left fun _ => ?_
  constructor
  · rintro (hparent | hproperty | hschema)
    · exact Or.inl (mem_references_of_mem_parents hparent)
    · exact Or.inr hproperty
    · exact Or.inl hschema
  · rintro (hschema | hproperty)
    · exact Or.inr (Or.inr hschema)
    · exact Or.inr (Or.inl hproperty)

end ClientPlan.Outline

import ClientPlan.Proofs.Plan.Summaries

/-! # Tags are planned apart from each other

What a plan holds for a tag is made from the components and from the declared operations under that
tag. Operations under other tags leave no trace in it, wherever they stand.
-/

namespace ClientPlan

open Client

namespace OpenApi

/-- An operation as a document declares it, with what it has from its path. -/
structure Declared where
  path : String
  /-- The parameters that all operations of the path have. -/
  shared : Option (List Parameter)
  method : Client.Method
  operation : Operation

namespace Document

/-- The declared operations, in the order of the paths. -/
def declared (document : Document) : List Declared :=
  document.paths.flatMap fun entry =>
    entry.2.listed.map fun found => ⟨entry.1, entry.2.parameters, found.1, found.2⟩

/-- The declared operations under a tag. -/
def declaredUnder (document : Document) (tag : String) : List Declared :=
  document.declared.filter fun found => tag ∈ found.operation.listedTags

end Document

end OpenApi

/-! ## What is read off the components -/

section

variable {first second : OpenApi.Document} (hschemas : first.schemas = second.schemas)

include hschemas

theorem OpenApi.Document.resolve_eq_resolve : first.resolve = second.resolve := by
  have hfollow : ∀ hops schema, first.follow hops schema = second.follow hops schema := by
    intro hops
    induction hops with
    | zero =>
        intro schema
        unfold follow
        cases schema.target? <;> rfl
    | succ left ih =>
        intro schema
        unfold follow schema?
        rw [hschemas]
        cases schema.target? with
        | none => rfl
        | some name =>
            dsimp only
            cases second.schemas.find? name with
            | none => rfl
            | some next => exact ih next
  funext schema
  exact hfollow maxHops schema

namespace Outline

theorem operation_eq_operation (flavour : Flavour) :
    operation first flavour = operation second flavour := by
  have hparameter : parameter first = parameter second := by
    funext param
    simp only [parameter, baseType, OpenApi.Document.resolve_eq_resolve hschemas]
  funext path shared method op
  simp only [operation, parameters, hparameter]

theorem models_congr (flavour : Flavour) : models first flavour = models second flavour := by
  have hadd : ∀ levels, Merged.add first levels = Merged.add second levels := by
    intro levels
    induction levels with
    | zero => rfl
    | succ levels ih =>
        funext merged schema
        simp only [Merged.add, ih, OpenApi.Document.resolve_eq_resolve hschemas]
  simp only [models, model, merged, hschemas, hadd]

end Outline

end

/-! ## What is kept for a tag -/

namespace Plan

/-- A declared operation as it is outlined. -/
def outlinedOf (options : Options) (document : OpenApi.Document) (found : OpenApi.Declared) :
    Operation :=
  Outline.operation document (.angular options) found.path found.shared found.method
    found.operation

theorem outlined_eq_map_declared (options : Options) (document : OpenApi.Document) :
    outlined options document = document.declared.map (outlinedOf options document) := by
  rw [outlined, Outline.operations, OpenApi.Document.declared, List.map_flatMap]
  refine List.flatMap_congr fun entry _ => ?_
  rw [List.map_map, OpenApi.PathItem.operations_eq_listed]
  rfl

theorem tags_outlinedOf (options : Options) (document : OpenApi.Document)
    (found : OpenApi.Declared) :
    (outlinedOf options document found).tags = found.operation.listedTags := by
  rw [outlinedOf, Outline.operation]
  exact Outline.tags_eq_listedTags options found.operation

theorem carrying_outlined (options : Options) (document : OpenApi.Document) (tag : String) :
    carrying tag (outlined options document) =
      (document.declaredUnder tag).map (outlinedOf options document) := by
  rw [carrying, outlined_eq_map_declared, List.filter_map, OpenApi.Document.declaredUnder]
  simp only [Function.comp_def, tags_outlinedOf]

section

variable {options : Options} {document : OpenApi.Document} {plan : Plan}
  (hplan : ofDocument (.angular options) document = .ok plan)

include hplan

/-- A tag has an entry if some operation is declared under it. The entry is made from these
operations. -/
theorem api?_of_ok (tag : String) :
    plan.api? tag =
      if document.declaredUnder tag = [] then none
      else some (Api.ofGroup (.angular options) (plan.models.map Model.name) tag
        (gather ((document.declaredUnder tag).map
          fun found => (outlinedOf options document found).annotated options))) := by
  have htag : tag ∈ plan.apis.map Api.tag ↔ document.declaredUnder tag ≠ [] := by
    rw [map_tag_of_ok hplan, ne_eq, ← List.map_eq_nil_iff (f := outlinedOf options document),
      ← carrying_outlined, carrying]
    simp
  cases hfind : plan.api? tag with
  | none =>
      have hnot : tag ∉ plan.apis.map Api.tag := by
        intro hmem
        obtain ⟨api, hapi, heq⟩ := List.mem_map.mp hmem
        exact List.find?_eq_none.mp hfind api hapi (decide_eq_true heq)
      rw [if_pos (not_not.mp (htag.not.mp hnot))]
  | some api =>
      have hapi : api ∈ plan.apis := List.mem_of_find?_eq_some hfind
      obtain rfl : api.tag = tag := by simpa using List.find?_some hfind
      have hgroup := eq_ofGroup_of_ok hplan hapi
      rw [carrying_outlined, List.map_map] at hgroup
      rw [if_neg (htag.mp (List.mem_map_of_mem hapi))]
      exact congrArg some hgroup

/-- The usage of a tag can be read off its entry. -/
theorem find?_tagUsage (tag : String) :
    plan.tagUsage.find? tag =
      (plan.api? tag).map fun api => ⟨api.hasGetOperations, api.hasMutationOperations⟩ := by
  rw [tagUsage_eq_flags hplan, api?]
  induction plan.apis with
  | nil => rfl
  | cons api apis ih =>
      rw [List.map_cons, OrderedMap.find?, List.find?_cons, ih]
      by_cases htag : api.tag = tag <;> simp [htag]

end

/-- Two documents with the same components and the same declared operations under a tag give the tag
the same entry and the same usage, whatever else they declare. -/
theorem tag_isolated {options : Options} {first second : OpenApi.Document} {plan other : Plan}
    {tag : String} (hplan : ofDocument (.angular options) first = .ok plan)
    (hother : ofDocument (.angular options) second = .ok other)
    (hschemas : first.schemas = second.schemas)
    (hdeclared : first.declaredUnder tag = second.declaredUnder tag) :
    plan.api? tag = other.api? tag ∧ plan.tagUsage.find? tag = other.tagUsage.find? tag := by
  have houtlined : outlinedOf options first = outlinedOf options second := by
    funext found
    rw [outlinedOf, outlinedOf, Outline.operation_eq_operation hschemas]
  have hmodels : plan.models = other.models := by
    rw [eq_outcome_of_ok hplan, eq_outcome_of_ok hother]
    simp only [outcome, planned, Outline.models_congr hschemas]
  have hentry : plan.api? tag = other.api? tag := by
    rw [api?_of_ok hplan, api?_of_ok hother, hdeclared, hmodels, houtlined]
  refine ⟨hentry, ?_⟩
  rw [find?_tagUsage hplan, find?_tagUsage hother, hentry]

/-- Pets that are listed by anyone and added by their keepers. -/
def petHouse : OpenApi.Document where
  paths :=
    [("/pets",
        { get := some { operationId := some "list", tags := some ["pets"] }
          post := some { operationId := some "list2", tags := some ["Pets", "keepers"] } })]

/-- The same pets in a zoo, where other things are listed before, between and after them. -/
def zoo : OpenApi.Document where
  paths :=
    [("/staff", { get := some { operationId := some "list", tags := some ["keepers"] } }),
      ("/pets",
        { get := some { operationId := some "list", tags := some ["pets"] }
          post := some { operationId := some "list2", tags := some ["Pets", "keepers"] }
          delete := some { operationId := some "list3" } }),
      ("/staff/{name}", { put := some { tags := some ["keepers", "staff"] } })]

theorem tag_isolated_zoo :
    ∃ plan other, ofDocument (.angular {}) petHouse = .ok plan ∧
      ofDocument (.angular {}) zoo = .ok other ∧ plan.apis ≠ other.apis ∧
      plan.api? "Pets" = other.api? "Pets" ∧ (plan.api? "Pets").isSome = true ∧
      plan.tagUsage.find? "Pets" = other.tagUsage.find? "Pets" := by
  have hplan := ofDocument_of_lenient {} petHouse rfl
  have hother := ofDocument_of_lenient {} zoo rfl
  have hdeclared : petHouse.declaredUnder "Pets" = zoo.declaredUnder "Pets" := by
    rfl
  obtain ⟨hentry, husage⟩ := tag_isolated hplan hother rfl hdeclared
  refine ⟨_, _, hplan, hother, ?_, hentry, ?_, husage⟩
  · decide +kernel
  · decide +kernel

end Plan

end ClientPlan

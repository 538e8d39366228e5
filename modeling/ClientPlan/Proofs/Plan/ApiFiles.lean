import ClientPlan.Proofs.Code.FileText
import ClientPlan.Proofs.Plan.Conservation
import ClientPlan.Proofs.Plan.Coverage
import ClientPlan.Proofs.Plan.Imports
import ClientPlan.Proofs.Plan.MethodNames

/-! # The files of a tag in closed form

The built-in layouts render every file of a tag. What a file declares is known from the operations
of the tag alone, for their notes agree with the options, and it is read again in the text.
-/

namespace ClientPlan

open Client Code

/-- A function is named by the id of its operation, with a suffix where it is a resource. -/
theorem Code.Caller.isWordChar_name {op : Operation} {caller : Caller}
    (hop : ∀ c ∈ op.operationId.toList, Plan.isWordChar c = true) (hcaller : caller ∈ forms op) :
    ∀ c ∈ caller.name.toList, Plan.isWordChar c = true := by
  have hresource : ∀ c ∈ (op.operationId ++ "Resource").toList, Plan.isWordChar c = true := by
    have hsuffix : "Resource".toList.all Plan.isWordChar = true := rfl
    rw [String.toList_append]
    exact List.forall_mem_append.mpr ⟨hop, List.all_eq_true.mp hsuffix⟩
  rw [mem_forms] at hcaller
  rcases hcaller with rfl | rfl | rfl
  · exact hresource
  · exact hresource
  · exact hop

namespace Plan

/-- The file of a kind for a tag. -/
def apiFile (plan : Plan) (kind : ArtifactKind) (api : Api) : ApiFile :=
  let imports := api.imports.map fun name => ⟨[name], "../models/" ++ Name.slug name⟩
  match kind with
  | .resource => .resources (.ofApi imports api)
  | _ => .service (.ofApi plan.options imports api)

/-- The notes hold of an operation under any id. -/
theorem isNoted_underNumber {options : Options} {op : Operation} (hop : op.IsNoted options)
    (n : Nat) : (underNumber op n).IsNoted options where
  usesResourcePattern := hop.usesResourcePattern
  hasQueryParams := hop.hasQueryParams
  queryInterface := by
    rw [underNumber]
    cases op.queryParams.isEmpty <;> rfl
  plainPathTemplate := hop.plainPathTemplate
  valuePathTemplate := hop.valuePathTemplate

section

variable {options : Options} {document : OpenApi.Document} {plan : Plan}
  (hplan : ofDocument (.angular options) document = .ok plan)

include hplan

section

variable {api : Api} (hapi : api ∈ plan.apis)

include hapi

theorem isNoted_of_mem_operations {op : Operation} (hop : op ∈ api.operations) :
    op.IsNoted options := by
  obtain ⟨source, _, n, rfl⟩ := exists_underNumber_of_mem_operations hplan hapi hop
  exact isNoted_underNumber (source.isNoted_annotated options) n

theorem nodup_ids_operations : (ids api.operations).Nodup := by
  rw [operations_of_ok hplan hapi]
  exact nodup_ids_gather _

theorem getOperations_of_ok :
    api.getOperations = api.operations.filter fun op => op.method = .get := by
  rw [eq_ofGroup_of_ok hplan hapi]
  exact Api.getOperations_ofGroup ..

theorem declares_apiFile {kind : ArtifactKind} (hkind : kind ∈ ArtifactKind.ofTag options) :
    (plan.apiFile kind api).Declares options kind api.operations := by
  have hnoted : ∀ op ∈ api.operations, op.IsNoted options :=
    fun op hop => isNoted_of_mem_operations hplan hapi hop
  rw [← options_of_ok hplan] at hnoted hkind ⊢
  cases kind with
  | model => exact absurd hkind (ArtifactKind.model_not_mem_ofTag _)
  | mutation => exact declares_service hnoted _
  | resource =>
      have hfiles := ArtifactKind.resource_mem_ofTag.mp hkind
      exact declares_resources hfiles (getOperations_of_ok hplan hapi) _

theorem exists_of_mem_callers {kind : ArtifactKind} (hkind : kind ∈ ArtifactKind.ofTag options)
    {caller : Caller} (hcaller : caller ∈ (plan.apiFile kind api).callers) :
    ∃ op ∈ calledIn options kind api.operations, caller ∈ Caller.forms op := by
  rw [(declares_apiFile hplan hapi hkind).callers] at hcaller
  obtain ⟨op, hop, rfl⟩ := List.mem_map.mp hcaller
  exact ⟨op, hop, Caller.form_mem_forms options op⟩

theorem isWordChar_of_mem_callers {kind : ArtifactKind} (hkind : kind ∈ ArtifactKind.ofTag options)
    {caller : Caller} (hcaller : caller ∈ (plan.apiFile kind api).callers) :
    ∀ c ∈ caller.name.toList, isWordChar c = true := by
  obtain ⟨op, hcalled, hform⟩ := exists_of_mem_callers hplan hapi hkind hcaller
  have hop := isWordChar_of_mem_operations hplan hapi (List.mem_filter.mp hcalled).1
  exact Caller.isWordChar_name hop hform

/-- The functions that are read in a file of a tag are those that it declares. -/
theorem forall₂_functions {kind : ArtifactKind} (hkind : kind ∈ ArtifactKind.ofTag options) :
    List.Forall₂ Block.IsFunction (functionReader.blocks (plan.apiFile kind api).lines)
      (plan.apiFile kind api).callers :=
  (plan.apiFile kind api).forall₂_functions fun _ hcaller =>
    isWordChar_of_mem_callers hplan hapi hkind hcaller

/-- The functions of a service file are members of the class of the tag. -/
theorem inClass_apiFile : InClass api.className (plan.apiFile .mutation api).lines :=
  ServiceFile.inClass fun _ hitem =>
    isWordChar_of_mem_callers hplan hapi (ArtifactKind.mutation_mem_ofTag options)
      (List.mem_map_of_mem hitem)

end

/-- The built-in layouts render the files of a tag, which find all their imports. -/
theorem render_eq_ok {index : Nat} {api : Api} (hindex : plan.apis[index]? = some api)
    {kind : ArtifactKind} (hkind : kind ∈ ArtifactKind.ofTag options) (path : String) :
    plan.render {} ⟨path, kind, index⟩ = .ok (plan.apiFile kind api).text := by
  have himports := imports?_of_ok hplan (List.mem_of_getElem? hindex) "../models/"
  cases kind with
  | model => exact absurd hkind (ArtifactKind.model_not_mem_ofTag options)
  | mutation =>
      simp only [render, Overrides.get, builtInLines?, hindex, Option.bind_some, serviceFile?,
        himports, Option.map_some]
      rfl
  | resource =>
      simp only [render, Overrides.get, builtInLines?, hindex, Option.bind_some, resourceFile?,
        himports, Option.map_some]
      rfl

/-- A planned file of a tag has the text of what it declares. -/
theorem exists_api_of_mem_plannedFiles {file : PlannedFile} (hfile : file ∈ plan.plannedFiles)
    (hkind : file.kind ≠ .model) :
    ∃ api, plan.apis[file.index]? = some api ∧ file.kind ∈ ArtifactKind.ofTag options ∧
      plan.render {} file = .ok (plan.apiFile file.kind api).text := by
  obtain ⟨hmem, _⟩ := (mem_plannedFiles_of_ne_model hkind).mp hfile
  obtain ⟨hofTag, api, hindex, _⟩ := mem_apiFiles.mp hmem
  rw [options_of_ok hplan] at hofTag
  exact ⟨api, hindex, hofTag, render_eq_ok hplan hindex hofTag file.path⟩

end

end Plan

end ClientPlan

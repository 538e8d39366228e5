import ClientPlan.Proofs.PathTemplate
import ClientPlan.Proofs.Plan.ApiFiles
import ClientPlan.Proofs.Traversal

/-! # Generated functions use what is in scope

The address of a function interpolates variables that the template builder names and the layouts
declare, and its signature names an interface that is emitted elsewhere in the file. They agree in
the text of every planned file.
-/

namespace ClientPlan

open Client Code

namespace Code

/-- The parameter by which a function takes the query parameters of an interface. -/
def Caller.queryParam : Caller → String → Param
  | function _, name => ⟨"params", "Signal<" ++ name ++ " | undefined>", true⟩
  | member (.resource _), name => ⟨"params", "() => " ++ name ++ " | undefined", true⟩
  | member (.request _), name => ⟨"params", name, true⟩

/-- The functions in the text of a file use names that are in scope. -/
structure ApiFile.Closed (file : ApiFile) (ops : List Operation) : Prop where
  /-- The functions that stand in the text, each with its parameters, the lines that declare its
  constants, and its address. -/
  functions : List.Forall₂ Block.IsFunction (functionReader.blocks file.lines) file.callers
  /-- The interfaces that stand in the text, each with its members. -/
  interfaces : List.Forall₂ Block.IsInterface (interfaceReader.blocks file.lines) file.interfaces
  /-- Each function calls an operation by its address, and the variables that answer to
  placeholders there are parameters of the function or constants that it declares. -/
  interpolated : ∀ caller ∈ file.callers, ∃ op ∈ ops, caller ∈ Caller.forms op ∧
    caller.url = (op.template caller.dialect).text ∧
    ∀ variableName ∈ PathTemplate.resolved op.rawPath op.pathParams caller.dialect,
      .hole variableName ∈ (op.template caller.dialect).pieces ∧
        ("$\x7b" ++ variableName ++ "\x7d").toList <:+: caller.url.toList ∧
        (variableName ∈ caller.params.map Param.name ∨
          variableName ∈ caller.consts.map Const.name)
  /-- A signature names the query interface of its function. -/
  named : ∀ caller ∈ file.callers, ∀ name,
    caller.queryParam name ∈ caller.params ↔ name ∈ caller.query
  /-- The text declares each query interface that a signature names once. -/
  declared : ∀ caller ∈ file.callers, ∀ name ∈ caller.query,
    ((interfaceReader.blocks file.lines).map Block.head).count name = 1

namespace Caller

theorem queryParam_injective (caller : Caller) : Function.Injective caller.queryParam := by
  intro first second heq
  have htype := congrArg Param.type heq
  rcases caller with item | (item | item)
  · exact (String.append_right_inj _).mp ((String.append_left_inj _).mp htype)
  · exact (String.append_right_inj _).mp ((String.append_left_inj _).mp htype)
  · exact htype

/-- The parameter of the query parameters comes last, and no other one is like it. -/
theorem exists_params_eq {op : Operation} {caller : Caller} (hcaller : caller ∈ forms op) :
    ∃ others, caller.params = others ++ ((queryName? op).map caller.queryParam).toList ∧
      ∀ name, caller.queryParam name ∉ others := by
  have hsignal (name : String) : signalType (name ++ " | undefined") =
      "Signal<" ++ name ++ " | undefined>" := by
    unfold signalType
    simp only [String.append_assoc]
    rfl
  have hcall (name : String) : callType (name ++ " | undefined") =
      "() => " ++ name ++ " | undefined" := by
    unfold callType
    rw [String.append_assoc]
  rw [mem_forms] at hcaller
  rcases hcaller with rfl | rfl | rfl
  · refine ⟨(Resource.ofOperation signalType op).pathParams, ?_, ?_⟩
    · simp only [params, Resource.queryParam?, hsignal]
      rfl
    · simp [queryParam, Resource.ofOperation]
  · refine ⟨(Resource.ofOperation callType op).pathParams, ?_, ?_⟩
    · simp only [params, Resource.queryParam?, hcall]
      rfl
    · simp [queryParam, Resource.ofOperation]
  · refine ⟨(Request.ofOperation op).pathParams ++ (Request.ofOperation op).body.toList, rfl, ?_⟩
    simp [queryParam, Request.ofOperation]

theorem queryParam_mem_params {op : Operation} {caller : Caller} (hcaller : caller ∈ forms op)
    (name : String) : caller.queryParam name ∈ caller.params ↔ name ∈ caller.query := by
  obtain ⟨others, hparams, hothers⟩ := exists_params_eq hcaller
  rw [hparams, query_of_mem_forms hcaller, List.mem_append, or_iff_right (hothers name)]
  cases queryName? op with
  | none => simp
  | some other => simp [caller.queryParam_injective.eq_iff, eq_comm]

end Caller

/-- The interfaces that are read in a file have the names of those that it declares. -/
theorem ApiFile.map_head_interfaces (file : ApiFile) :
    (interfaceReader.blocks file.lines).map Block.head =
      file.interfaces.map QueryInterface.name :=
  (map_eq_map_of_forall₂ file.forall₂_interfaces fun _ _ _ hblock => hblock.name.symm).symm

end Code

theorem queryName?_of_isNoted {options : Options} {op : Operation} (hop : op.IsNoted options) :
    queryName? op = op.notes.queryParamsInterfaceName := by
  rw [queryName?, hop.hasQueryParams, ← hop.queryInterface]
  cases op.notes.queryParamsInterfaceName <;> rfl

namespace Plan

section

variable {options : Options} {document : OpenApi.Document} {plan : Plan}
  (hplan : ofDocument (.angular options) document = .ok plan)

include hplan

section

variable {api : Api} (hapi : api ∈ plan.apis) {kind : ArtifactKind}
  (hkind : kind ∈ ArtifactKind.ofTag options)

include hapi

theorem nodup_queryNames : (api.operations.filterMap queryName?).Nodup := by
  have hnames : api.operations.filterMap queryName? =
      api.operations.filterMap fun op => op.notes.queryParamsInterfaceName :=
    List.filterMap_congr fun op hop =>
      queryName?_of_isNoted (isNoted_of_mem_operations hplan hapi hop)
  rw [hnames]
  exact nodup_queryInterfaces (nodup_ids_operations hplan hapi)
    fun op hop => inStep_of_mem_operations hplan hapi hop

include hkind

theorem map_name_interfaces :
    (plan.apiFile kind api).interfaces.map QueryInterface.name =
      (calledIn options kind api.operations).filterMap queryName? := by
  rw [(declares_apiFile hplan hapi hkind).interfaces, List.map_filterMap]
  refine List.filterMap_congr fun op _ => ?_
  rw [queryInterface?, Option.map_map]
  cases queryName? op <;> rfl

theorem closed_apiFile : (plan.apiFile kind api).Closed api.operations where
  functions := forall₂_functions hplan hapi hkind
  interfaces := (plan.apiFile kind api).forall₂_interfaces
  interpolated := by
    intro caller hcaller
    obtain ⟨op, hcalled, hform⟩ := exists_of_mem_callers hplan hapi hkind hcaller
    have hop : op ∈ api.operations := (List.mem_filter.mp hcalled).1
    have hurl := Caller.url_of_mem_forms (isNoted_of_mem_operations hplan hapi hop) hform
    refine ⟨op, hop, hform, hurl, ?_⟩
    intro variableName hvariable
    have hhole : .hole variableName ∈ (op.template caller.dialect).pieces :=
      PathTemplate.hole_mem_build.mpr (.inl hvariable)
    refine ⟨hhole, hurl ▸ PathTemplate.infix_text_of_hole_mem hhole, ?_⟩
    -- An answer to a placeholder is the variable of a path parameter, and those are in scope.
    obtain ⟨param, hparam, rfl⟩ := PathTemplate.exists_of_mem_resolved hvariable
    exact List.mem_append.mp (Caller.variableFor_mem_scope hparam hform)
  named := by
    intro caller hcaller name
    obtain ⟨_, _, hform⟩ := exists_of_mem_callers hplan hapi hkind hcaller
    exact Caller.queryParam_mem_params hform name
  declared := by
    intro caller hcaller name hname
    obtain ⟨op, hcalled, hform⟩ := exists_of_mem_callers hplan hapi hkind hcaller
    rw [Caller.query_of_mem_forms hform] at hname
    rw [ApiFile.map_head_interfaces, map_name_interfaces hplan hapi hkind]
    have hnodup : ((calledIn options kind api.operations).filterMap queryName?).Nodup :=
      (nodup_queryNames hplan hapi).sublist (List.filter_sublist.filterMap queryName?)
    exact List.count_eq_one_of_mem hnodup (List.mem_filterMap.mpr ⟨op, hcalled, hname⟩)

end

/-- The functions in the text of a planned file of a tag use what is in scope. -/
theorem planned_files_closed {file : PlannedFile} (hfile : file ∈ plan.plannedFiles)
    (hkind : file.kind ≠ .model) :
    ∃ api, plan.apis[file.index]? = some api ∧
      plan.render {} file =
        .ok (String.join ((plan.apiFile file.kind api).lines.map (· ++ "\n"))) ∧
      (plan.apiFile file.kind api).Closed api.operations := by
  obtain ⟨api, hindex, hofTag, hrender⟩ := exists_api_of_mem_plannedFiles hplan hfile hkind
  exact ⟨api, hindex, hrender, closed_apiFile hplan (List.mem_of_getElem? hindex) hofTag⟩

end

/-- A shop that finds pets by their ids and filters them. -/
def petSearch : OpenApi.Document where
  paths :=
    [("/pets/{pet_id}",
        { get := some
            { operationId := some "findPet"
              tags := some ["Pets"]
              parameters := some
                [{ name := "pet_id", location := "path" },
                  { name := "q", location := "query" }] } })]

theorem planned_files_closed_petSearch :
    ∃ plan, ofDocument (.angular {}) petSearch = .ok plan ∧
      ∃ file ∈ plan.plannedFiles, file.kind = .resource ∧
        ∃ api, plan.apis[file.index]? = some api ∧
          plan.render {} file =
            .ok (String.join ((plan.apiFile file.kind api).lines.map (· ++ "\n"))) ∧
          ∃ caller ∈ (plan.apiFile file.kind api).callers,
            caller.url = "/pets/$\x7bpetIdPath\x7d" ∧ "petIdPath" ∈ caller.scope ∧
              (∃ block ∈ functionReader.blocks (plan.apiFile file.kind api).lines,
                block.IsFunction caller) ∧
              caller.queryParam "FindPetParams" ∈ caller.params ∧
              ((interfaceReader.blocks (plan.apiFile file.kind api).lines).map Block.head).count
                "FindPetParams" = 1 := by
  have hplan := ofDocument_of_lenient {} petSearch rfl
  obtain ⟨file, hfile, hkind⟩ :
      ∃ file ∈ (outcome {} petSearch).plannedFiles, file.kind = .resource := by decide +kernel
  have hcallers : ∀ api ∈ (outcome {} petSearch).apis,
      ∃ caller ∈ ((outcome {} petSearch).apiFile .resource api).callers,
        caller.url = "/pets/$\x7bpetIdPath\x7d" ∧ "petIdPath" ∈ caller.scope ∧
          caller.query = some "FindPetParams" := by
    decide +kernel
  obtain ⟨api, hindex, hrender, hclosed⟩ :=
    planned_files_closed hplan hfile (by rw [hkind]; decide)
  obtain ⟨caller, hcaller, hurl, hscope, hquery⟩ := hcallers api (List.mem_of_getElem? hindex)
  rw [← hkind] at hcaller
  obtain ⟨block, hblock⟩ := exists_mem_left_of_forall₂ hclosed.functions hcaller
  refine ⟨_, hplan, file, hfile, hkind, api, hindex, hrender, caller, hcaller, hurl, hscope,
    ⟨block, hblock⟩, (hclosed.named caller hcaller _).mpr hquery, ?_⟩
  exact hclosed.declared caller hcaller _ hquery

end Plan

end ClientPlan

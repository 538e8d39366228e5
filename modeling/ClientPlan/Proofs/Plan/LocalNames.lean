import ClientPlan.Proofs.Code.Identifier
import ClientPlan.Proofs.Plan.ApiFiles

/-! # Names that a function binds

A function binds a name for each path parameter, fixed names for the body and the query parameters,
and the constants of its body, which are path parameters with a suffix. Fixed names and constants
never meet each other, so it all depends on the names of path parameters.
-/

namespace ClientPlan

open Client Code

namespace Code.Caller

/-- The fixed names by which the function of an operation takes the body, if it sends one, and the
query parameters, if there are any. -/
def fixedNames (options : Options) (op : Operation) : List String :=
  (if op.body.isSome ∧ ¬ (op.method = .get ∧ options.useReactiveResource = true) then ["body"]
    else []) ++
  if op.queryParams.isEmpty then [] else ["params"]

/-- The path parameters for which a function declares a constant. -/
def bound (dialect : PathTemplate.Dialect) (params : List Parameter) : List Parameter :=
  params.filter fun param => dialect = .value || !param.isNumeric

/-- The name of the constant for a path parameter. -/
def constName (param : Parameter) : String :=
  PathTemplate.Dialect.value.variableFor param.identifier param.isNumeric

theorem constName_eq (param : Parameter) :
    constName param = param.identifier ++ if param.isNumeric then "Value" else "Path" := by
  unfold constName PathTemplate.Dialect.variableFor
  cases param.isNumeric <;> rfl

theorem getLast?_constName (param : Parameter) :
    (constName param).toList.getLast? = some (if param.isNumeric then 'e' else 'h') := by
  rw [constName_eq, String.toList_append, List.getLast?_append]
  cases param.isNumeric <;> rfl

theorem identifier_eq_of_constName_eq {first second : Parameter}
    (hname : constName first = constName second) : first.identifier = second.identifier := by
  -- The last character tells the suffix, which can then be taken off.
  have hlast := congrArg (fun name : String => name.toList.getLast?) hname
  simp only [getLast?_constName] at hlast
  have hnumeric : first.isNumeric = second.isNumeric := by
    revert hlast
    cases first.isNumeric <;> cases second.isNumeric <;> decide
  rw [constName_eq, constName_eq, hnumeric] at hname
  exact (String.append_left_inj _).mp hname

theorem mem_fixedNames {options : Options} {op : Operation} {name : String} :
    name ∈ fixedNames options op ↔
      (name = "body" ∧ op.body.isSome ∧
          ¬ (op.method = .get ∧ options.useReactiveResource = true)) ∨
        (name = "params" ∧ op.queryParams.isEmpty = false) := by
  rw [fixedNames, List.mem_append, List.mem_ite_nil_right, List.mem_ite_nil_left,
    List.mem_singleton, List.mem_singleton, Bool.not_eq_true, and_comm, and_comm (b := _ = "params")]

theorem constName_not_mem_fixedNames (options : Options) (op : Operation) (param : Parameter) :
    constName param ∉ fixedNames options op := by
  have hlast := getLast?_constName param
  rw [mem_fixedNames]
  rintro (⟨hname, _⟩ | ⟨hname, _⟩) <;> rw [hname] at hlast <;> revert hlast <;>
    cases param.isNumeric <;> decide

theorem nodup_fixedNames (options : Options) (op : Operation) :
    (fixedNames options op).Nodup := by
  unfold fixedNames
  split <;> split <;> decide

theorem isIdentifier_of_mem_fixedNames {options : Options} {op : Operation} {name : String}
    (hname : name ∈ fixedNames options op) : IsIdentifier name := by
  rcases mem_fixedNames.mp hname with ⟨rfl, _⟩ | ⟨rfl, _⟩ <;> decide

theorem nodup_map_constName {dialect : PathTemplate.Dialect} {params : List Parameter}
    (hparams : (params.map Parameter.identifier).Nodup) :
    ((bound dialect params).map constName).Nodup := by
  have hbound : ((bound dialect params).map Parameter.identifier).Nodup :=
    hparams.sublist (List.filter_sublist.map _)
  refine List.Nodup.map_on ?_ hbound.of_map
  intro first hfirst second hsecond hname
  exact List.inj_on_of_nodup_map hbound hfirst hsecond (identifier_eq_of_constName_eq hname)

theorem map_name_consts_form (options : Options) (op : Operation) :
    (form options op).consts.map Const.name =
      (bound (form options op).dialect op.pathParams).map constName := by
  have hall : bound .value op.pathParams = op.pathParams := by simp [bound]
  have hresource : (op.pathParams.map signalConst).map Const.name = op.pathParams.map constName := by
    rw [List.map_map]
    exact List.map_congr_left fun param _ => name_signalConst param
  rcases form_cases options op with ⟨_, hform | hform⟩ | ⟨_, hform⟩
  · rw [hform, dialect, hall]
    exact hresource
  · rw [hform, dialect, hall]
    exact hresource
  · rw [hform, dialect, bound, consts, Request.ofOperation, plainConsts, List.map_map]
    simp only [reduceCtorEq, decide_false, Bool.false_or]
    refine List.map_congr_left fun param hparam => ?_
    have hnumeric : param.isNumeric = false := by simpa using (List.mem_filter.mp hparam).2
    rw [constName_eq, hnumeric]
    rfl

section

variable {options : Options} {op : Operation} (hop : op.IsNoted options)

include hop

theorem map_name_query {make : String → Param} (hmake : ∀ name, (make name).name = "params") :
    ((queryName? op).map make).toList.map Param.name =
      if op.queryParams.isEmpty then [] else ["params"] := by
  unfold queryName?
  rw [hop.hasQueryParams]
  cases op.queryParams.isEmpty <;> simp [hmake]

theorem map_name_params_form :
    (form options op).params.map Param.name =
      op.pathParams.map Parameter.identifier ++ fixedNames options op := by
  have hresource (readType : String → String) :
      ((Resource.ofOperation readType op).pathParams ++
          ((Resource.ofOperation readType op).queryParam? readType).toList).map Param.name =
        op.pathParams.map Parameter.identifier ++
          if op.queryParams.isEmpty then [] else ["params"] := by
    rw [List.map_append, Resource.queryParam?, Resource.ofOperation, List.map_map,
      map_name_query hop fun _ => rfl]
    rfl
  rw [fixedNames]
  rcases form_cases options op with ⟨hfetch, hform | hform⟩ | ⟨hsend, hform⟩
  · rw [hform, params, if_neg (fun hbody => hbody.2 hfetch), hresource, List.nil_append]
  · rw [hform, params, if_neg (fun hbody => hbody.2 hfetch), hresource, List.nil_append]
  · rw [hform, params, List.map_append, List.map_append, Request.queryParam?, Request.ofOperation,
      map_name_query hop fun _ => rfl, List.map_map, ← List.append_assoc]
    cases op.body <;> simp [hsend, Function.comp_def]

/-- The names that a function binds are distinct identifiers when the names of its path parameters
are, and are neither fixed names nor those of its constants. -/
theorem scope_form_iff :
    ((form options op).scope.Nodup ∧ ∀ name ∈ (form options op).scope, IsIdentifier name) ↔
      (op.pathParams.map Parameter.identifier).Nodup ∧
        ∀ param ∈ op.pathParams, IsIdentifier param.identifier ∧
          param.identifier ∉ fixedNames options op ∧
            param.identifier ∉ (form options op).consts.map Const.name := by
  rw [scope, map_name_params_form hop, List.append_assoc, List.nodup_append', List.nodup_append']
  have hconsts := map_name_consts_form options op
  constructor
  · rintro ⟨⟨hnodup, _, hdisjoint⟩, hidentifiers⟩
    refine ⟨hnodup, ?_⟩
    intro param hparam
    have hmem : param.identifier ∈ op.pathParams.map Parameter.identifier :=
      List.mem_map_of_mem hparam
    have hfree := List.disjoint_left.mp hdisjoint hmem
    rw [List.mem_append, not_or] at hfree
    exact ⟨hidentifiers _ (List.mem_append_left _ hmem), hfree⟩
  · rintro ⟨hnodup, hparams⟩
    -- Constants inherit from path parameters that they are distinct and that they are identifiers.
    have hconst : ∀ name ∈ (form options op).consts.map Const.name,
        ∃ param ∈ op.pathParams, constName param = name := by
      intro name hname
      rw [hconsts] at hname
      obtain ⟨param, hparam, rfl⟩ := List.mem_map.mp hname
      exact ⟨param, (List.mem_filter.mp hparam).1, rfl⟩
    refine ⟨⟨hnodup, ⟨nodup_fixedNames options op, ?_, ?_⟩, ?_⟩, ?_⟩
    · rw [hconsts]
      exact nodup_map_constName hnodup
    · intro name hfixed hname
      obtain ⟨param, _, rfl⟩ := hconst name hname
      exact constName_not_mem_fixedNames options op param hfixed
    · intro name hname hrest
      obtain ⟨param, hparam, rfl⟩ := List.mem_map.mp hname
      have hfree := (hparams param hparam).2
      rcases List.mem_append.mp hrest with hfixed | hlocal
      · exact hfree.1 hfixed
      · exact hfree.2 hlocal
    · intro name hname
      rcases List.mem_append.mp hname with hname | hname
      · obtain ⟨param, hparam, rfl⟩ := List.mem_map.mp hname
        exact (hparams param hparam).1
      rcases List.mem_append.mp hname with hname | hname
      · exact isIdentifier_of_mem_fixedNames hname
      · obtain ⟨param, hparam, rfl⟩ := hconst name hname
        exact (hparams param hparam).1.variableFor .value param.isNumeric

end

end Code.Caller

namespace Plan

section

variable {options : Options} {document : OpenApi.Document} {plan : Plan}
  (hplan : ofDocument (.angular options) document = .ok plan)

include hplan

theorem identifier_eq_camel {api : Api} (hapi : api ∈ plan.apis) {op : Operation}
    (hop : op ∈ api.operations) {param : Parameter} (hparam : param ∈ op.pathParams) :
    param.identifier = Name.camel param.rawName := by
  obtain ⟨source, _, n, rfl⟩ := exists_underNumber_of_mem_operations hplan hapi hop
  rw [underNumber, Operation.annotated] at hparam
  obtain ⟨declared, _, rfl⟩ := List.mem_map.mp hparam
  rfl

/-- The functions of a planned file bind distinct identifiers exactly where camel case tells the
path parameters of their operations apart, makes them identifiers, and keeps them off the fixed
names and the names of the constants. -/
theorem nodup_scope_iff {file : PlannedFile} (hfile : file ∈ plan.plannedFiles)
    (hkind : file.kind ≠ .model) :
    ∃ api, plan.apis[file.index]? = some api ∧
      plan.render {} file = .ok (plan.apiFile file.kind api).text ∧
      ∀ caller ∈ (plan.apiFile file.kind api).callers,
        caller.lines <:+: (plan.apiFile file.kind api).lines ∧
        ∃ op ∈ api.operations, caller = Caller.form options op ∧
          caller.params.map Param.name =
            op.pathParams.map (fun param => Name.camel param.rawName) ++
              Caller.fixedNames options op ∧
          caller.consts.map Const.name =
            (Caller.bound caller.dialect op.pathParams).map Caller.constName ∧
          (caller.scope.Nodup ∧ (∀ name ∈ caller.scope, IsIdentifier name) ↔
            (op.pathParams.map fun param => Name.camel param.rawName).Nodup ∧
              ∀ param ∈ op.pathParams, IsIdentifier (Name.camel param.rawName) ∧
                Name.camel param.rawName ∉ Caller.fixedNames options op ∧
                Name.camel param.rawName ∉ caller.consts.map Const.name) := by
  obtain ⟨api, hindex, hofTag, hrender⟩ := exists_api_of_mem_plannedFiles hplan hfile hkind
  have hapi := List.mem_of_getElem? hindex
  refine ⟨api, hindex, hrender, ?_⟩
  intro caller hcaller
  refine ⟨ApiFile.lines_infix_of_mem_callers hcaller, ?_⟩
  rw [(declares_apiFile hplan hapi hofTag).callers] at hcaller
  obtain ⟨op, hcalled, rfl⟩ := List.mem_map.mp hcaller
  have hop : op ∈ api.operations := (List.mem_filter.mp hcalled).1
  have hnoted := isNoted_of_mem_operations hplan hapi hop
  have hcamel : ∀ param ∈ op.pathParams, param.identifier = Name.camel param.rawName :=
    fun param hparam => identifier_eq_camel hplan hapi hop hparam
  refine ⟨op, hop, rfl, ?_, Caller.map_name_consts_form options op, ?_⟩
  · rw [Caller.map_name_params_form hnoted, List.map_congr_left hcamel]
  rw [Caller.scope_form_iff hnoted, List.map_congr_left hcamel]
  refine and_congr_right fun _ => forall₂_congr fun param hparam => ?_
  rw [hcamel param hparam]

end

/-- A shop that finds a toy of a pet, both by their ids. -/
def petToy : OpenApi.Document where
  paths :=
    [("/pets/{pet_id}/{toy_id}",
        { get := some
            { operationId := some "findToy"
              parameters := some
                [{ name := "pet_id", location := "path" },
                  { name := "toy_id", location := "path" }] } })]

/-- The same with a parameter whose name differs from another in its separators only. -/
def petTwice : OpenApi.Document where
  paths :=
    [("/pets/{pet_id}/{pet-id}",
        { get := some
            { operationId := some "findToy"
              parameters := some
                [{ name := "pet_id", location := "path" },
                  { name := "pet-id", location := "path" }] } })]

/-- The resource function of each document, as it is planned. -/
theorem scopes_petToy_petTwice :
    ((∃ file ∈ (outcome {} petToy).plannedFiles, file.kind = .resource) ∧
      ∀ api ∈ (outcome {} petToy).apis,
        (∃ caller ∈ ((outcome {} petToy).apiFile .resource api).callers,
          caller.scope = ["petId", "toyId", "petIdPath", "toyIdPath"]) ∧
        ∀ op ∈ api.operations,
          (op.pathParams.map fun param => Name.camel param.rawName).Nodup ∧
            ∀ param ∈ op.pathParams, IsIdentifier (Name.camel param.rawName) ∧
              Name.camel param.rawName ∉ Caller.fixedNames {} op ∧
              Name.camel param.rawName ∉ (Caller.form {} op).consts.map Const.name) ∧
    (∃ file ∈ (outcome {} petTwice).plannedFiles, file.kind = .resource ∧ file.index = 0) ∧
      ((outcome {} petTwice).apis[0]?).isSome = true ∧
      ∀ api ∈ (outcome {} petTwice).apis[0]?,
        ∃ caller ∈ ((outcome {} petTwice).apiFile .resource api).callers,
          caller.params.map Param.name = ["petId", "petId"] ∧ ¬ caller.scope.Nodup := by
  decide +kernel

theorem nodup_scope_iff_petToy :
    ∃ plan, ofDocument (.angular {}) petToy = .ok plan ∧
      ∃ file ∈ plan.plannedFiles, file.kind = .resource ∧
        ∃ api ∈ plan.apis, ∃ caller ∈ (plan.apiFile .resource api).callers,
          caller.scope = ["petId", "toyId", "petIdPath", "toyIdPath"] ∧
            caller.scope.Nodup ∧ ∀ name ∈ caller.scope, IsIdentifier name := by
  have hplan := ofDocument_of_lenient {} petToy rfl
  obtain ⟨⟨⟨file, hfile, hkind⟩, hapis⟩, -⟩ := scopes_petToy_petTwice
  obtain ⟨api, hindex, _, hcallers⟩ := nodup_scope_iff hplan hfile (by rw [hkind]; decide)
  rw [hkind] at hcallers
  have hapi := List.mem_of_getElem? hindex
  obtain ⟨⟨caller, hcaller, hscope⟩, hparams⟩ := hapis api hapi
  obtain ⟨_, op, hop, rfl, _, _, hnames⟩ := hcallers caller hcaller
  exact ⟨_, hplan, file, hfile, hkind, api, hapi, _, hcaller, hscope,
    hnames.mpr (hparams op hop)⟩

/-- Its function has two parameters of one name. -/
theorem not_nodup_scope_petTwice :
    ∃ plan, ofDocument (.angular {}) petTwice = .ok plan ∧
      ∃ file ∈ plan.plannedFiles, file.kind = .resource ∧
        ∃ api ∈ plan.apis[file.index]?, plan.render {} file = .ok (plan.apiFile .resource api).text ∧
          ∃ caller ∈ (plan.apiFile .resource api).callers,
            caller.params.map Param.name = ["petId", "petId"] ∧ ¬ caller.scope.Nodup := by
  have hplan := ofDocument_of_lenient {} petTwice rfl
  obtain ⟨-, ⟨file, hfile, hkind, hfirst⟩, hsome, hcallers⟩ := scopes_petToy_petTwice
  obtain ⟨api, hindex⟩ := Option.isSome_iff_exists.mp hsome
  have hrender := render_eq_ok hplan hindex (by decide : .resource ∈ ArtifactKind.ofTag {}) file.path
  refine ⟨_, hplan, file, hfile, hkind, api, ?_, ?_, hcallers api hindex⟩
  · rw [hfirst]
    exact hindex
  · rw [← hkind, ← hfirst] at hrender
    rw [← hkind]
    exact hrender

end Plan

end ClientPlan

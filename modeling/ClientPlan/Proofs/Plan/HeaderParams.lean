import ClientPlan.Proofs.Outline.Without
import ClientPlan.Proofs.Plan.Mapped
import ClientPlan.Proofs.Plan.ModelFiles

/-! # What header and cookie parameters reach

Cookie parameters show in no file. The types of header parameters are looked at for the models that
the files of a tag import, and header parameters show in nothing else.
-/

namespace ClientPlan

open Client Code

section

variable (places : List Location)

namespace Client.Operation

theorem template_without (op : Operation) : (op.without places).template = op.template := rfl

theorem named_without (options : Options) (op : Operation) :
    (op.without places).named options = (op.named options).without places := rfl

theorem withTemplates_without (op : Operation) :
    (op.without places).withTemplates = op.withTemplates.without places := by
  rw [withTemplates, withTemplates, template_without]
  generalize op.template = template
  rfl

theorem annotated_without (options : Options) (op : Operation) :
    (op.without places).annotated options = (op.annotated options).without places := by
  rw [annotated, annotated, named_without, withTemplates_without]

theorem openPlaceholders_without (options : Options) (op : Operation) :
    (op.without places).openPlaceholders options = op.openPlaceholders options := by
  rw [openPlaceholders, openPlaceholders, named_without, template_without]

end Client.Operation

namespace Plan

theorem unseen_without : Unseen (·.without places) where
  operationId _ := rfl
  method _ := rfl
  renamed _ _ := rfl

end Plan

/-- The entry of a tag whose operations have lost the parameters of some places. -/
def Api.without (names : List String) (api : Api) : Api :=
  { api.mapOperations (·.without places) with
    imports := Plan.mentionedModels names (api.operations.map (·.without places)) }

end

/-! ## Files -/

namespace Code

/-- A service does not look at header and cookie parameters. -/
theorem ServiceFile.ofApi_without (places : List Location) (options : Options)
    (imports : List Import) (names : List String) (api : Api) :
    ServiceFile.ofApi options imports (api.without places names) =
      ServiceFile.ofApi options imports api := by
  simp only [ofApi, Api.without, Api.mapOperations, List.filter_map, List.filterMap_map]
  rfl

theorem ResourceFile.ofApi_without (places : List Location) (imports : List Import)
    (names : List String) (api : Api) :
    ResourceFile.ofApi imports (api.without places names) = ResourceFile.ofApi imports api := by
  simp only [ofApi, Api.without, Api.mapOperations, List.map_map]
  rfl

/-- The line by which a file of a tag imports a model. -/
def importLine (name : String) : String :=
  Import.text ⟨[name], "../models/" ++ Name.slug name⟩

end Code

namespace Plan

/-- The imports of a file of a tag stand in one place. -/
theorem exists_lines_apiFile (plan : Plan) (kind : ArtifactKind) (api : Api) :
    ∃ top rest, ∀ imports, (plan.apiFile kind { api with imports := imports }).lines =
      top ++ imports.map importLine ++ rest := by
  let alone := (plan.apiFile kind { api with imports := [] }).lines
  cases kind with
  | resource =>
      refine ⟨alone.take 3, alone.drop 3, fun imports => ?_⟩
      simp [alone, apiFile, ApiFile.lines, ResourceFile.lines, ResourceFile.ofApi, importLine]
  | model | mutation =>
      refine ⟨alone.take 4, alone.drop 4, fun imports => ?_⟩
      simp [alone, apiFile, ApiFile.lines, ServiceFile.lines, ServiceFile.ofApi, importLine]

theorem apiFile_without {plan other : Plan} (hoptions : other.options = plan.options)
    (places : List Location) (names : List String) (kind : ArtifactKind) (api : Api) :
    other.apiFile kind (api.without places names) =
      plan.apiFile kind
        { api with imports := mentionedModels names (api.operations.map (·.without places)) } := by
  cases kind <;>
    simp only [apiFile, ServiceFile.ofApi_without, ResourceFile.ofApi_without, hoptions] <;> rfl

theorem render_model_congr {plan other : Plan} (hmodels : other.models = plan.models)
    {file : PlannedFile} (hkind : file.kind = .model) :
    other.render {} file = plan.render {} file := by
  simp only [render, Overrides.get, hkind, builtInLines?, modelFile?, imports?, hmodels]

/-! ## Two runs -/

section

variable {places : List Location} (hpath : .path ∉ places) (hquery : .query ∉ places)
  {options : Options} {document : OpenApi.Document} {plan : Plan}
  (hplan : ofDocument (.angular options) document = .ok plan)

include hpath hquery hplan

/-- Placeholders name path parameters, so the document is planned without the others. -/
theorem ofDocument_without :
    ofDocument (.angular options) (document.without places) =
      .ok (outcome options (document.without places)) := by
  obtain ⟨hopen, _⟩ := (ofDocument_eq_ok_iff options document plan).mp hplan
  refine (ofDocument_eq_ok_iff _ _ _).mpr ⟨?_, rfl⟩
  rw [outlined_without hpath hquery, List.forall_mem_map]
  intro op hop hstrict
  rw [Operation.openPlaceholders_without]
  exact hopen op hop hstrict

variable {other : Plan}
  (hother : ofDocument (.angular options) (document.without places) = .ok other)

include hother

omit hpath hquery in
theorem models_without : other.models = plan.models := by
  have hschemas : (document.without places).schemas = document.schemas := rfl
  rw [eq_outcome_of_ok hother, eq_outcome_of_ok hplan]
  simp only [outcome, planned, Outline.models_congr hschemas]

theorem tagUsage_without : other.tagUsage = plan.tagUsage := by
  rw [tagUsage_eq_ofOperations hother, tagUsage_eq_ofOperations hplan,
    outlined_without hpath hquery, TagUsage.ofOperations, TagUsage.ofOperations, TagUsage.steps,
    TagUsage.steps, List.flatMap_map]
  rfl

theorem apis_without : other.apis = plan.apis.map (Api.without places document.schemas.keys) := by
  have hcarrying : ∀ tag, carrying tag (outlined options (document.without places)) =
      (carrying tag (outlined options document)).map (·.without places) := by
    intro tag
    rw [outlined_without hpath hquery, carrying, List.filter_map]
    rfl
  rw [apis_eq_of_ok hother, apis_eq_of_ok hplan, List.map_map, models_without hplan hother,
    map_name_models_of_ok hplan, outlined_without hpath hquery, List.flatMap_map]
  refine List.map_congr_left fun tag _ => ?_
  rw [← outlined_without hpath hquery, hcarrying, List.map_map]
  have hannotated : Operation.annotated options ∘ (·.without places) =
      (·.without places) ∘ Operation.annotated options :=
    funext fun op => op.annotated_without places options
  rw [hannotated, ← List.map_map, gather_map (unseen_without places),
    ofGroup_map (unseen_without places)]
  rfl

theorem plannedFiles_without : other.plannedFiles = plan.plannedFiles := by
  have hskip : other.skipSet = plan.skipSet := by
    rw [skipSet_of_ok hother, skipSet_of_ok hplan, tagUsage_without hpath hquery hplan hother]
  rw [plannedFiles, plannedFiles, modelFiles, modelFiles, apiFiles, apiFiles, hskip,
    options_of_ok hother, options_of_ok hplan, models_without hplan hother,
    apis_without hpath hquery hplan hother, List.zipIdx_map, List.flatMap_map]
  rfl

/-- A file of a tag changes in its imports. -/
theorem exists_renders_without {file : PlannedFile} (hfile : file ∈ plan.plannedFiles)
    (hkind : file.kind ≠ .model) :
    ∃ api top rest, plan.apis[file.index]? = some api ∧
      plan.render {} file =
        .ok (unlines (top ++
          (mentionedModels document.schemas.keys api.operations).map importLine ++ rest)) ∧
      other.render {} file =
        .ok (unlines (top ++ (mentionedModels document.schemas.keys
          (api.operations.map (·.without places))).map importLine ++ rest)) := by
  obtain ⟨api, hindex, hofTag, hrender⟩ := exists_api_of_mem_plannedFiles hplan hfile hkind
  obtain ⟨top, rest, hlines⟩ := exists_lines_apiFile plan file.kind api
  have hapi := eq_ofGroup_of_ok hplan (List.mem_of_getElem? hindex)
  have himports : api.imports = mentionedModels document.schemas.keys api.operations := by
    rw [hapi, map_name_models_of_ok hplan]
    rfl
  have hother' : other.apis[file.index]? = some (api.without places document.schemas.keys) := by
    rw [apis_without hpath hquery hplan hother, List.getElem?_map, hindex, Option.map_some]
  have hoptions : other.options = plan.options := by
    rw [options_of_ok hother, options_of_ok hplan]
  refine ⟨api, top, rest, hindex, ?_, ?_⟩
  · rw [hrender, ApiFile.text, ← hlines, ← himports]
  · rw [render_eq_ok hother hother' hofTag, ApiFile.text, apiFile_without hoptions, hlines]

theorem render_without {file : PlannedFile} (hfile : file ∈ plan.plannedFiles)
    (himports : ∀ api ∈ plan.apis,
      mentionedModels document.schemas.keys (api.operations.map (·.without places)) =
        mentionedModels document.schemas.keys api.operations) :
    other.render {} file = plan.render {} file := by
  by_cases hkind : file.kind = .model
  · exact render_model_congr (models_without hplan hother) hkind
  · obtain ⟨api, top, rest, hindex, hbefore, hafter⟩ :=
      exists_renders_without hpath hquery hplan hother hfile hkind
    rw [hbefore, hafter, himports api (List.mem_of_getElem? hindex)]

end

/-- Header parameters whose types mention no model may go. -/
theorem mentionedModels_without {models : List String} {ops : List Operation}
    (hops : ∀ op ∈ ops, ∀ param ∈ op.headerParams, ∀ word ∈ words param.dataType, word ∉ models)
    (places : List Location) :
    mentionedModels models (ops.map (·.without places)) = mentionedModels models ops := by
  rw [mentionedModels_eq, mentionedModels_eq, List.flatMap_map, List.filter_flatMap,
    List.filter_flatMap]
  congr 1
  refine List.flatMap_congr fun op hop => ?_
  have hheaders : (op.headerParams.flatMap fun param => words param.dataType).filter
      (· ∈ models) = [] := by
    rw [List.filter_eq_nil_iff]
    intro word hword
    obtain ⟨param, hparam, hread⟩ := List.mem_flatMap.mp hword
    simpa using hops op hop param hparam word hread
  simp only [mentionedTypes, Operation.without, List.map_append, List.flatMap_append,
    List.filter_append, List.flatMap_map]
  split
  next => rw [hheaders]; rfl
  next => rfl

/-- Without header and cookie parameters the same files are planned, and they have the same text
but for the import lines of tags, which then come from the other types alone. The text is the same
where no header type mentions a model. Cookie parameters may go in any case. -/
theorem headers_show_in_imports {options : Options} {document : OpenApi.Document} {plan : Plan}
    (hplan : ofDocument (.angular options) document = .ok plan) :
    (∃ other, ofDocument (.angular options) (document.without [.header, .cookie]) = .ok other ∧
      other.plannedFiles = plan.plannedFiles ∧
      (∀ file ∈ plan.plannedFiles, file.kind = .model →
        other.render {} file = plan.render {} file) ∧
      (∀ file ∈ plan.plannedFiles, file.kind ≠ .model →
        ∃ api top rest, plan.apis[file.index]? = some api ∧
          plan.render {} file =
            .ok (unlines (top ++
              (mentionedModels document.schemas.keys api.operations).map importLine ++ rest)) ∧
          other.render {} file =
            .ok (unlines (top ++ (mentionedModels document.schemas.keys
              (api.operations.map (·.without [.header, .cookie]))).map importLine ++ rest))) ∧
      ((∀ api ∈ plan.apis, ∀ op ∈ api.operations, ∀ param ∈ op.headerParams,
          ∀ word ∈ words param.dataType, word ∉ document.schemas.keys) →
        ∀ file ∈ plan.plannedFiles, other.render {} file = plan.render {} file)) ∧
    ∃ other, ofDocument (.angular options) (document.without [.cookie]) = .ok other ∧
      other.plannedFiles = plan.plannedFiles ∧
      ∀ file ∈ plan.plannedFiles, other.render {} file = plan.render {} file := by
  constructor
  · have hpath : Location.path ∉ [Location.header, .cookie] := by decide
    have hquery : Location.query ∉ [Location.header, .cookie] := by decide
    have hother := ofDocument_without hpath hquery hplan
    refine ⟨_, hother, plannedFiles_without hpath hquery hplan hother, ?_, ?_, ?_⟩
    · intro file _ hkind
      exact render_model_congr (models_without hplan hother) hkind
    · intro file hfile hkind
      exact exists_renders_without hpath hquery hplan hother hfile hkind
    · intro hwords file hfile
      refine render_without hpath hquery hplan hother hfile fun api hapi => ?_
      exact mentionedModels_without (hwords api hapi) _
  · have hpath : Location.path ∉ [Location.cookie] := by decide
    have hquery : Location.query ∉ [Location.cookie] := by decide
    have hother := ofDocument_without hpath hquery hplan
    refine ⟨_, hother, plannedFiles_without hpath hquery hplan hother, ?_⟩
    intro file hfile
    refine render_without hpath hquery hplan hother hfile fun api _ => ?_
    exact mentionedModels_map (f := (·.without [.cookie])) (fun _ => rfl) _ _

/-- Pets that are listed for a session, with a header that traces the request. -/
def tracedPets : OpenApi.Document where
  paths :=
    [("/pets",
        { parameters := some
            [{ name := "X-Trace", location := "header"
               schema := some { reference := some "#/components/schemas/Trace" } },
              { name := "session", location := "cookie"
                schema := some { reference := some "#/components/schemas/Session" } }]
          get := some { operationId := some "list", tags := some ["pets"] } })]
  components := some
    { schemas := some
        [("Session", { type := some (.single "string") }),
          ("Trace", { type := some (.single "string") })] }

theorem headers_show_in_imports_tracedPets :
    ∃ plan other top rest, ofDocument (.angular {}) tracedPets = .ok plan ∧
      ofDocument (.angular {}) (tracedPets.without [.header, .cookie]) = .ok other ∧
      other.plannedFiles = plan.plannedFiles ∧
      plan.render {} ⟨"api/pets-resources.ts", .resource, 0⟩ =
        .ok (unlines (top ++ ["import \x7b Trace \x7d from '../models/trace';"] ++ rest)) ∧
      other.render {} ⟨"api/pets-resources.ts", .resource, 0⟩ = .ok (unlines (top ++ rest)) := by
  have hplan := ofDocument_of_lenient {} tracedPets rfl
  obtain ⟨⟨other, hother, hfiles, _, htexts, _⟩, _⟩ := headers_show_in_imports hplan
  obtain ⟨api, top, rest, hindex, hbefore, hafter⟩ :=
    htexts ⟨"api/pets-resources.ts", .resource, 0⟩ (by decide +kernel) (by decide)
  have hmentions : (outcome {} tracedPets).apis.map (fun api =>
      (mentionedModels tracedPets.schemas.keys api.operations,
        mentionedModels tracedPets.schemas.keys
          (api.operations.map (·.without [.header, .cookie])))) = [(["Trace"], [])] := by
    decide +kernel
  have hmention := congrArg (fun found => found[0]?) hmentions
  rw [List.getElem?_map, hindex] at hmention
  obtain ⟨hwith, hwithout⟩ := Prod.mk.inj (Option.some.inj hmention)
  rw [hwith] at hbefore
  rw [hwithout, List.map_nil, List.append_nil] at hafter
  have hline : importLine "Trace" = "import \x7b Trace \x7d from '../models/trace';" := by
    decide +kernel
  rw [List.map_singleton, hline] at hbefore
  exact ⟨_, other, top, rest, hplan, hother, hfiles, hbefore, hafter⟩

/-- The type of a header that is sent with pets is imported where they are listed. -/
theorem not_header_free_tracedPets :
    ¬ ∀ (options : Options) (document : OpenApi.Document) (plan other : Plan),
      ofDocument (.angular options) document = .ok plan →
      ofDocument (.angular options) (document.without [.header, .cookie]) = .ok other →
      (∀ file ∈ plan.plannedFiles, ∃ text, plan.render {} file = .ok text) →
      other.plannedFiles = plan.plannedFiles ∧
        ∀ file ∈ plan.plannedFiles, other.render {} file = plan.render {} file := by
  intro hall
  have hplan := ofDocument_of_lenient {} tracedPets rfl
  have hother := ofDocument_of_lenient {} (tracedPets.without [.header, .cookie]) rfl
  have hrenders : ∀ file ∈ (outcome {} tracedPets).plannedFiles,
      ((outcome {} tracedPets).render {} file).toOption.isSome = true := by
    decide +kernel
  obtain ⟨_, hsame⟩ := hall {} tracedPets _ _ hplan hother fun file hfile => by
    have hsome := hrenders file hfile
    cases hrender : (outcome {} tracedPets).render {} file with
    | ok text => exact ⟨text, rfl⟩
    | error error =>
        rw [hrender] at hsome
        cases hsome
  have htext := hsame ⟨"api/pets-resources.ts", .resource, 0⟩ (by decide +kernel)
  revert htext
  decide +kernel

end Plan

end ClientPlan

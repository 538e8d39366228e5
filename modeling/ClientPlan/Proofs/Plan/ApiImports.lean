import ClientPlan.Proofs.Outline.Merging
import ClientPlan.Proofs.Outline.Parameters
import ClientPlan.Proofs.Plan.Isolation
import ClientPlan.Proofs.Plan.ModelFiles
import ClientPlan.Proofs.Plan.Words

/-! # The imports of a tag, by the schemas

The imports of a tag are read off written types. Where components and references are named by
identifiers that are no built-in words, they are the components inside the types of the declared
operations under the tag.
-/

namespace ClientPlan

open Client

/-! ## The types of a declared operation -/

namespace OpenApi

/-- The type of a parameter. -/
def Parameter.form (param : Parameter) : TypeForm :=
  (param.schema.map Schema.form).getD (.basic .string)

/-- The type of the first payload, where it has a schema. -/
def payloadForm? (content : Option (OrderedMap MediaType)) : Option TypeForm :=
  (content.bind List.head?).bind fun entry => entry.2.schema.map Schema.form

/-- The type of the body: that of its first payload. -/
def Operation.bodyForm? (op : Operation) : Option TypeForm :=
  ((op.requestBody.bind RequestBody.content).bind List.head?).map fun entry =>
    (entry.2.schema.map Schema.form).getD (.basic .unknown)

/-- The type of the first successful response that has one. -/
def Operation.responseForm (op : Operation) : TypeForm :=
  ((op.responses.filter fun response => Outline.isSuccess response.1).findSome?
    fun response => payloadForm? response.2.content).getD (.basic .void)

namespace Declared

/-- The parameters of a declared operation: those of its path that it does not declare again, and
then its own as they are declared last. -/
def parameters (found : Declared) : List Parameter :=
  let own := found.operation.parameters.getD []
  (found.shared.getD []).filter (fun param => ∀ other ∈ own, Outline.key other ≠ Outline.key param)
    ++ Outline.lastDeclared own

/-- The parameters that are sent in one place. -/
def sentIn (found : Declared) (place : Location) : List Parameter :=
  found.parameters.filter fun param => Location.ofWord param.location = place

/-- The types of a declared operation: those of its path, query and header parameters, of its body
and of its response. -/
def forms (found : Declared) : List TypeForm :=
  (found.sentIn .path ++ found.sentIn .query ++ found.sentIn .header).map Parameter.form ++
    found.operation.bodyForm?.toList ++ [found.operation.responseForm]

/-- The schemas that a declared operation is written with. -/
def schemas (found : Declared) : List Schema :=
  parameterSchemas found.shared ++ found.operation.schemas

end Declared

/-! ## Their texts -/

section

variable (document : Document)

theorem dataType_parameter (param : Parameter) :
    (Outline.parameter document param).dataType = param.form.text := by
  rw [Outline.parameter, Parameter.form]
  cases param.schema with
  | none => rfl
  | some schema => exact (Schema.text_form schema).symm

theorem parameters_eq_map (found : Declared) :
    Outline.parameters document found.shared found.operation.parameters =
      found.parameters.map (Outline.parameter document) := by
  rw [Outline.parameters, Outline.foldl_replaceParameter, Declared.parameters, List.map_append,
    List.filter_map]
  rfl

theorem sentIn_parameters (found : Declared) (place : Location) :
    (Outline.sentIn place
        (Outline.parameters document found.shared found.operation.parameters)).map
      Client.Parameter.dataType = (found.sentIn place).map fun param => param.form.text := by
  rw [parameters_eq_map, Outline.sentIn, List.filter_map, List.map_map, Declared.sentIn]
  exact List.map_congr_left fun param _ => dataType_parameter document param

end

theorem payloadType_eq (content : Option (OrderedMap MediaType)) :
    Outline.payloadType content = (payloadForm? content).map TypeForm.text := by
  rcases content with _ | _ | ⟨⟨type, ⟨schema⟩⟩, rest⟩
  · rfl
  · rfl
  · cases schema with
    | none => rfl
    | some schema => exact congrArg some (Schema.text_form schema).symm

theorem dataType_body (op : Operation) :
    (Outline.body op).map Body.dataType = op.bodyForm?.map TypeForm.text := by
  rw [Outline.body, Operation.bodyForm?]
  rcases op.requestBody with _ | ⟨required, _ | _ | ⟨⟨type, ⟨schema⟩⟩, rest⟩⟩
  · rfl
  · rfl
  · rfl
  · cases schema with
    | none => rfl
    | some schema => exact congrArg some (Schema.text_form schema).symm

theorem responseType_eq (op : Operation) :
    Outline.responseType op = op.responseForm.text := by
  rw [Outline.responseType, Operation.responseForm, ← Option.getD_map TypeForm.text,
    List.map_findSome?]
  simp only [payloadType_eq]
  rfl

/-! ## Their components -/

/-- The component of a form that may be another one without a schema comes from the schema. -/
theorem exists_of_component?_getD {schema : Option Schema} {type : BasicType} {name : String}
    (hname : ((schema.map Schema.form).getD (.basic type)).component? = some name) :
    ∃ found, schema = some found ∧ found.form.component? = some name := by
  cases schema with
  | none => cases hname
  | some found => exact ⟨found, rfl, hname⟩

theorem mem_contentSchemas {content : Option (OrderedMap MediaType)} {entry : String × MediaType}
    (hentry : content.bind List.head? = some entry) {schema : Schema}
    (hschema : entry.2.schema = some schema) : schema ∈ contentSchemas content := by
  obtain ⟨entries, rfl, hhead⟩ := Option.bind_eq_some_iff.mp hentry
  exact List.mem_filterMap.mpr ⟨entry, List.mem_of_mem_head? hhead, hschema⟩

theorem mem_parameterSchemas {params : Option (List Parameter)} {param : Parameter}
    (hparam : param ∈ params.getD []) {schema : Schema} (hschema : param.schema = some schema) :
    schema ∈ parameterSchemas params :=
  List.mem_filterMap.mpr ⟨param, hparam, hschema⟩

theorem mem_of_mem_lastDeclared {own : List Parameter} {param : Parameter}
    (hparam : param ∈ Outline.lastDeclared own) : param ∈ own := by
  induction own with
  | nil => exact hparam
  | cons head later ih =>
      rw [Outline.lastDeclared] at hparam
      split at hparam
      next => exact List.mem_cons_of_mem _ (ih hparam)
      next =>
        rcases List.mem_cons.mp hparam with rfl | hlater
        · exact List.mem_cons_self
        · exact List.mem_cons_of_mem _ (ih hlater)

namespace Declared

variable {found : Declared} {schema : Schema}

theorem mem_schemas_of_mem_sentIn {place : Location} {param : Parameter}
    (hparam : param ∈ found.sentIn place) (hschema : param.schema = some schema) :
    schema ∈ found.schemas := by
  rw [schemas, Operation.schemas]
  rcases List.mem_append.mp (List.mem_of_mem_filter hparam) with hshared | hown
  · have hmem := mem_parameterSchemas (List.mem_of_mem_filter hshared) hschema
    exact List.mem_append_left _ hmem
  · have hmem := mem_parameterSchemas (mem_of_mem_lastDeclared hown) hschema
    exact List.mem_append_right _ (List.mem_append_left _ (List.mem_append_left _ hmem))

theorem mem_schemas_of_mem_response {response : String × Response}
    (hresponse : response ∈ found.operation.responses)
    (hschema : schema ∈ contentSchemas response.2.content) : schema ∈ found.schemas := by
  rw [schemas, Operation.schemas]
  exact List.mem_append_right _ (List.mem_append_right _
    (List.mem_flatMap.mpr ⟨response, hresponse, hschema⟩))

theorem mem_schemas_of_mem_body
    (hschema : schema ∈ contentSchemas (found.operation.requestBody.bind RequestBody.content)) :
    schema ∈ found.schemas := by
  rw [schemas, Operation.schemas]
  exact List.mem_append_right _ (List.mem_append_left _ (List.mem_append_right _ hschema))

section

variable {form : TypeForm} {name : String} (hname : form.component? = some name)

include hname

theorem exists_schema_of_mem_map_sentIn {place : Location}
    (hform : form ∈ (found.sentIn place).map Parameter.form) :
    ∃ schema ∈ found.schemas, schema.form.component? = some name := by
  obtain ⟨param, hparam, rfl⟩ := List.mem_map.mp hform
  obtain ⟨schema, hschema, hfound⟩ := exists_of_component?_getD hname
  exact ⟨schema, mem_schemas_of_mem_sentIn hparam hschema, hfound⟩

theorem exists_schema_of_bodyForm? (hform : found.operation.bodyForm? = some form) :
    ∃ schema ∈ found.schemas, schema.form.component? = some name := by
  obtain ⟨entry, hentry, rfl⟩ := Option.map_eq_some_iff.mp hform
  obtain ⟨schema, hschema, hfound⟩ := exists_of_component?_getD hname
  exact ⟨schema, mem_schemas_of_mem_body (mem_contentSchemas hentry hschema), hfound⟩

theorem exists_schema_of_responseForm (hform : found.operation.responseForm = form) :
    ∃ schema ∈ found.schemas, schema.form.component? = some name := by
  rw [← hform, Operation.responseForm] at hname
  cases hpayload : (found.operation.responses.filter fun response =>
      Outline.isSuccess response.1).findSome? fun response => payloadForm? response.2.content with
  | none =>
      rw [hpayload] at hname
      cases hname
  | some payload =>
      rw [hpayload] at hname
      obtain ⟨response, hresponse, hpayload⟩ := List.exists_of_findSome?_eq_some hpayload
      obtain ⟨entry, hentry, hmap⟩ := Option.bind_eq_some_iff.mp hpayload
      obtain ⟨schema, hschema, rfl⟩ := Option.map_eq_some_iff.mp hmap
      exact ⟨schema, mem_schemas_of_mem_response (List.mem_of_mem_filter hresponse)
        (mem_contentSchemas hentry hschema), hname⟩

/-- A component in a type of a declared operation is written for one of its schemas. -/
theorem exists_schema_of_mem_forms (hform : form ∈ found.forms) :
    ∃ schema ∈ found.schemas, schema.form.component? = some name := by
  simp only [forms, List.map_append, List.mem_append, Option.mem_toList, List.mem_singleton]
    at hform
  rcases hform with (((hpath | hquery) | hheader) | hbody) | hresponse
  · exact exists_schema_of_mem_map_sentIn hname hpath
  · exact exists_schema_of_mem_map_sentIn hname hquery
  · exact exists_schema_of_mem_map_sentIn hname hheader
  · exact exists_schema_of_bodyForm? hname hbody
  · exact exists_schema_of_responseForm hname hresponse.symm

end

end Declared

theorem Document.mem_writtenSchemas {document : Document} {found : Declared}
    (hfound : found ∈ document.declared) {schema : Schema} (hschema : schema ∈ found.schemas) :
    schema ∈ document.writtenSchemas := by
  obtain ⟨entry, hentry, hmap⟩ := List.mem_flatMap.mp hfound
  obtain ⟨slot, hslot, rfl⟩ := List.mem_map.mp hmap
  refine List.mem_append_left _ (List.mem_flatMap.mpr ⟨entry, hentry, ?_⟩)
  rw [PathItem.schemas, PathItem.operations_eq_listed]
  rcases List.mem_append.mp hschema with hshared | hown
  · exact List.mem_append_left _ hshared
  · exact List.mem_append_right _ (List.mem_flatMap.mpr ⟨slot, hslot, hown⟩)

/-- The components in the types of declared operations are referred to by the document. -/
theorem Document.mem_references_of_mem_forms {document : Document} {found : Declared}
    (hfound : found ∈ document.declared) {form : TypeForm} (hform : form ∈ found.forms)
    {name : String} (hname : form.component? = some name) : name ∈ document.references := by
  obtain ⟨schema, hschema, hwritten⟩ := Declared.exists_schema_of_mem_forms hname hform
  exact List.mem_flatMap.mpr ⟨schema, Document.mem_writtenSchemas hfound hschema,
    Schema.mem_references_of_component?_form hwritten⟩

end OpenApi

/-! ## The types of a tag -/

namespace Plan

theorem mentionedTypes_outlinedOf (options : Options) (document : OpenApi.Document)
    (found : OpenApi.Declared) :
    mentionedTypes (outlinedOf options document found) =
      found.forms.map OpenApi.TypeForm.text := by
  simp only [mentionedTypes, outlinedOf, Outline.operation, OpenApi.Declared.forms,
    List.map_append, OpenApi.sentIn_parameters, OpenApi.dataType_body, OpenApi.responseType_eq,
    List.map_map, Option.toList_map, List.map_singleton]
  rfl

theorem mentionedTypes_annotated (options : Options) (op : Operation) :
    mentionedTypes (op.annotated options) = mentionedTypes op := by
  simp only [mentionedTypes, Operation.annotated, Operation.withTemplates, Operation.named,
    List.map_append, List.map_map]
  rfl

theorem mentionedTypes_member (group : List Operation) (op : Operation) :
    mentionedTypes (member group op) = mentionedTypes op := by
  unfold member
  split <;> rfl

section

variable {options : Options} {document : OpenApi.Document} {plan : Plan}
  (hplan : ofDocument (.angular options) document = .ok plan) {api : Api} (hapi : api ∈ plan.apis)

include hplan hapi

theorem map_mentionedTypes_operations :
    api.operations.map mentionedTypes =
      (document.declaredUnder api.tag).map fun found =>
        found.forms.map OpenApi.TypeForm.text := by
  rw [operations_of_ok hplan hapi, map_gather mentionedTypes_member, carrying_outlined,
    List.map_map, List.map_map]
  refine List.map_congr_left fun found _ => ?_
  rw [Function.comp_apply, Function.comp_apply, mentionedTypes_annotated,
    mentionedTypes_outlinedOf]

theorem imports_of_ok :
    api.imports = mentionedModels document.schemas.keys api.operations := by
  rw [← map_name_models_of_ok hplan, operations_of_ok hplan hapi]
  exact congrArg Api.imports (eq_ofGroup_of_ok hplan hapi)

end

/-- A name by which a component can be told from built-in types wherever it is written. -/
def IsModelName (name : String) : Prop :=
  IsAsciiIdentifier name ∧ name ∉ OpenApi.TypeForm.builtinWords

instance (name : String) : Decidable (IsModelName name) :=
  inferInstanceAs (Decidable (_ ∧ _))

/-- Read off written types, the models that types mention are the components inside them. -/
theorem filter_words_flatMap {models : List String} {forms : List OpenApi.TypeForm}
    (hmodels : ∀ name ∈ models, IsModelName name)
    (hforms : ∀ form ∈ forms, ∀ name, form.component? = some name → IsAsciiIdentifier name) :
    ((forms.map OpenApi.TypeForm.text).flatMap words).filter (· ∈ models) =
      (forms.filterMap OpenApi.TypeForm.component?).filter (· ∈ models) := by
  rw [List.flatMap_map, List.filterMap_eq_flatMap_toList, List.filter_flatMap, List.filter_flatMap]
  refine List.flatMap_congr fun form hform => ?_
  rw [OpenApi.TypeForm.words_text (hforms form hform)]
  exact OpenApi.TypeForm.filter_words (fun name hname => (hmodels name hname).2) form

/-- The imports of a tag are the components inside the types of its operations, each where it is
met first. A reference to no component imports nothing. -/
theorem api_imports {options : Options} {document : OpenApi.Document} {plan : Plan}
    (hplan : ofDocument (.angular options) document = .ok plan)
    (hcomponents : ∀ name ∈ document.schemas.keys, IsModelName name)
    (hreferences : ∀ name ∈ document.references, IsModelName name)
    {api : Api} (hapi : api ∈ plan.apis) :
    let declared := document.declaredUnder api.tag
    api.operations.map mentionedTypes =
        declared.map (fun found => found.forms.map OpenApi.TypeForm.text) ∧
      api.imports =
        (((declared.flatMap OpenApi.Declared.forms).filterMap
          OpenApi.TypeForm.component?).filter (· ∈ document.schemas.keys)).eraseDups ∧
      api.imports.Nodup ∧
      ∀ name, document.schema? name = none → name ∉ api.imports := by
  intro declared
  have htypes := map_mentionedTypes_operations hplan hapi
  have himports : api.imports =
      (((declared.flatMap OpenApi.Declared.forms).filterMap
        OpenApi.TypeForm.component?).filter (· ∈ document.schemas.keys)).eraseDups := by
    -- A component in a type need not be declared, but it is one that the document refers to.
    have hforms : ∀ form ∈ declared.flatMap OpenApi.Declared.forms, ∀ name,
        form.component? = some name → IsAsciiIdentifier name := by
      intro form hform name hname
      obtain ⟨found, hfound, hmem⟩ := List.mem_flatMap.mp hform
      exact (hreferences name (OpenApi.Document.mem_references_of_mem_forms
        (List.mem_of_mem_filter hfound) hmem hname)).1
    have hmentioned : api.operations.flatMap mentionedTypes =
        (declared.flatMap OpenApi.Declared.forms).map OpenApi.TypeForm.text := by
      rw [List.flatMap_def, htypes, ← List.flatMap_def, List.map_flatMap]
    rw [imports_of_ok hplan hapi, mentionedModels_eq, ← List.flatMap_assoc, hmentioned,
      filter_words_flatMap hcomponents hforms]
  refine ⟨htypes, himports, ?_, ?_⟩
  · rw [himports]
    exact nodup_eraseDups _
  · intro name hname hmem
    rw [himports, List.mem_eraseDups, List.mem_filter, decide_eq_true_eq] at hmem
    exact OrderedMap.find?_eq_none_iff.mp hname hmem.2

/-- Shelves of toys by name. A header refers to no component. -/
def toyShelves : OpenApi.Document where
  paths :=
    [("/shelves/{id}",
        { parameters := some
            [{ name := "id", location := "path", schema := some (Outline.referring "ShelfId") },
              { name := "trace", location := "header", schema := some (Outline.referring "Trace") }]
          put := some
            { tags := some ["shelves"]
              requestBody := some
                { content := some
                    [("application/json",
                      { schema := some
                          { type := some (.single "array")
                            items := some
                              { type := some (.single "object")
                                additionalProperties :=
                                  some (.each (Outline.referring "Toy")) } } })] }
              responses :=
                [("200",
                  { content := some
                      [("application/json", { schema := some (Outline.referring "ShelfId") })] })] }
          delete := some { tags := some ["yard"] } })]
  components := some
    { schemas := some [("Toy", {}), ("ShelfId", { type := some (.single "integer") })] }

theorem api_imports_toyShelves :
    ∃ plan, ofDocument (.angular {}) toyShelves = .ok plan ∧
      (∀ name ∈ toyShelves.schemas.keys, IsModelName name) ∧
      (∀ name ∈ toyShelves.references, IsModelName name) ∧
      toyShelves.references = ["ShelfId", "Trace", "Toy", "ShelfId"] ∧
      ∃ api ∈ plan.apis, api.tag = "Shelves" ∧
        api.operations.map mentionedTypes =
          [["ShelfId", "Trace", "Array<Record<string, Toy>>", "ShelfId"]] ∧
        api.imports = ["ShelfId", "Toy"] := by
  have hplan := ofDocument_of_lenient {} toyShelves rfl
  obtain ⟨api, hapi, htag⟩ := exists_api_of_mem_tags hplan
    (show "Shelves" ∈ _ by decide +kernel)
  have hcomponents : ∀ name ∈ toyShelves.schemas.keys, IsModelName name := by decide +kernel
  have hreferences : ∀ name ∈ toyShelves.references, IsModelName name := by decide +kernel
  obtain ⟨htypes, himports, _⟩ := api_imports hplan hcomponents hreferences hapi
  rw [htag] at htypes himports
  refine ⟨_, hplan, hcomponents, hreferences, by decide +kernel, api, hapi, htag,
    htypes.trans ?_, himports.trans ?_⟩
  · decide +kernel
  · decide +kernel

end Plan

end ClientPlan

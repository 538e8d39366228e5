import ClientPlan.Proofs.Annotation
import ClientPlan.Proofs.OpenApi.References
import ClientPlan.Proofs.Plan.Isolation

/-! # Schemas in place of references

A parameter whose schema refers to components can be given the schema that the references lead to
instead. Nothing changes by it in the operations of a document but the names of types, neither as
they are outlined nor as they are annotated, as long as nothing refers to a component that has the
name of the type of numbers.
-/

namespace ClientPlan

namespace Client

/-! ## Operations but for type names -/

/-- The parameter without the name of its type. -/
def Parameter.untyped (param : Parameter) : Parameter :=
  { param with dataType := "" }

/-- The parameter with nothing left of the name of its type but whether it is numeric. -/
def Parameter.coarse (param : Parameter) : Parameter :=
  { param with dataType := if param.hasNumericType then "number" else "" }

namespace Operation

/-- The operation with each parameter replaced by its image. -/
def mapParams (f : Parameter → Parameter) (op : Operation) : Operation :=
  { op with
    pathParams := op.pathParams.map f
    queryParams := op.queryParams.map f
    headerParams := op.headerParams.map f
    cookieParams := op.cookieParams.map f }

/-- The operation without the names of the types of its parameters. -/
def untyped (op : Operation) : Operation :=
  op.mapParams Parameter.untyped

end Operation

theorem Parameter.hasNumericType_coarse (param : Parameter) :
    param.coarse.hasNumericType = param.hasNumericType := by
  rw [coarse]
  cases hnumeric : param.hasNumericType with
  | true => simp [hasNumericType]
  | false =>
      simp only [hasNumericType, Bool.or_eq_false_iff] at hnumeric
      simp [hasNumericType, hnumeric]

theorem Parameter.untyped_namedInPath_coarse (param : Parameter) :
    param.coarse.namedInPath.untyped = param.namedInPath.untyped := by
  simp only [namedInPath, hasNumericType_coarse]
  rfl

end Client

namespace PathTemplate

open Client

theorem parameter?_untyped (params : List Parameter) (name : String) :
    parameter? (params.map Parameter.untyped) name = (parameter? params name).map .untyped := by
  have hpath : (params.map Parameter.untyped).filter (fun param => param.location = .path) =
      (params.filter fun param => param.location = .path).map .untyped := List.filter_map
  have hraw : ∀ inPath : List Parameter,
      (inPath.map Parameter.untyped).find? (fun param => param.rawName = name) =
        (inPath.find? fun param => param.rawName = name).map .untyped := fun _ => List.find?_map
  have hidentifier : ∀ inPath : List Parameter,
      (inPath.map Parameter.untyped).find? (fun param => param.identifier = name) =
        (inPath.find? fun param => param.identifier = name).map .untyped := fun _ => List.find?_map
  unfold parameter?
  simp only [hpath, hraw, hidentifier]
  cases (params.filter fun param => param.location = .path).find?
    fun param => param.rawName = name <;> rfl

theorem build_untyped (raw : String) (params : List Parameter) (dialect : Dialect) :
    build raw (params.map Parameter.untyped) dialect = build raw params dialect := by
  have hanswer : answer? (params.map Parameter.untyped) dialect = answer? params dialect := by
    funext name
    rw [answer?, answer?, parameter?_untyped, Option.map_map]
    rfl
  rw [build, build, hanswer]

end PathTemplate

namespace Client.Operation

@[simp] theorem operationId_untyped (op : Operation) :
    op.untyped.operationId = op.operationId := rfl

@[simp] theorem template_untyped (op : Operation) (dialect : PathTemplate.Dialect) :
    op.untyped.template dialect = op.template dialect :=
  PathTemplate.build_untyped op.rawPath op.pathParams dialect

theorem withTemplates_untyped (op : Operation) :
    op.untyped.withTemplates = op.withTemplates.untyped := by
  simp only [withTemplates, template_untyped]
  simp only [untyped, mapParams]

theorem untyped_mapParams_coarse (op : Operation) :
    (op.mapParams Parameter.coarse).untyped = op.untyped := by
  simp only [untyped, mapParams, List.map_map]
  rfl

theorem untyped_named_coarse (op : Operation) (options : Options) :
    ((op.mapParams Parameter.coarse).named options).untyped = (op.named options).untyped := by
  have hpath : Parameter.untyped ∘ Parameter.namedInPath ∘ Parameter.coarse =
      Parameter.untyped ∘ Parameter.namedInPath := by
    funext param
    exact param.untyped_namedInPath_coarse
  simp only [named, untyped, mapParams, List.map_map, hpath, List.isEmpty_map]
  rfl

theorem annotate_congr {op other : Operation} {options : Options}
    (hnamed : (other.named options).untyped = (op.named options).untyped) :
    (other.annotate options).map untyped = (op.annotate options).map untyped := by
  have hid : (other.named options).operationId = (op.named options).operationId := by
    rw [← operationId_untyped, hnamed, operationId_untyped]
  have htemplate : (other.named options).template .plain = (op.named options).template .plain := by
    rw [← template_untyped, hnamed, template_untyped]
  have houtcome : (other.named options).withTemplates.untyped =
      (op.named options).withTemplates.untyped := by
    rw [← withTemplates_untyped, hnamed, withTemplates_untyped]
  simp only [annotate, htemplate, hid]
  cases ((op.named options).template .plain).unresolved with
  | nil => exact congrArg Except.ok houtcome
  | cons placeholder rest =>
      cases options.strictPathParameters with
      | false => exact congrArg Except.ok houtcome
      | true => rfl

/-- Annotation reads no more of the name of a type than whether the parameter is numeric. -/
theorem annotate_coarse (op : Operation) (options : Options) :
    ((op.mapParams Parameter.coarse).annotate options).map untyped =
      (op.annotate options).map untyped :=
  annotate_congr (op.untyped_named_coarse options)

end Client.Operation

/-! ## Parameters whose schemas are replaced -/

namespace OpenApi

/-- A parameter as it is, or with the schema that the references of its own schema lead to. -/
inductive Parameter.Inlines (document : Document) (param : Parameter) : Parameter → Prop
  | same : Inlines document param param
  | resolved {schema target : Schema} (hschema : param.schema = some schema)
      (htarget : document.resolve schema = some target) :
      Inlines document param { param with schema := some target }

/-- Parameters of which any number is replaced. -/
def InlinesParameters (document : Document) (params others : Option (List Parameter)) : Prop :=
  List.Forall₂ (Parameter.Inlines document) (params.getD []) (others.getD [])

/-- An operation of which any number of parameters is replaced. -/
def Operation.Inlines (document : Document) (op other : Operation) : Prop :=
  other = { op with parameters := other.parameters } ∧
    InlinesParameters document op.parameters other.parameters

/-- A path of which any number of parameters is replaced, in the operations and in what they
share. -/
def PathItem.Inlines (document : Document) (item other : PathItem) : Prop :=
  InlinesParameters document item.parameters other.parameters ∧
    List.Forall₂ (fun found found' => found'.1 = found.1 ∧
      Operation.Inlines document found.2 found'.2) item.operations other.operations

/-- The same document, but that any number of parameters have the schemas that the references of
their own schemas lead to. -/
def Document.Inlines (document other : Document) : Prop :=
  other.components = document.components ∧
    List.Forall₂ (fun entry entry' => entry'.1 = entry.1 ∧
      PathItem.Inlines document entry.2 entry'.2) document.paths other.paths

theorem Document.resolve_of_resolve {document : Document} {schema target : Schema}
    (htarget : document.resolve schema = some target) : document.resolve target = some target := by
  obtain ⟨_, _, _, hend⟩ := Document.follow_eq_some_iff.mp htarget
  exact Document.follow_of_leads .here (Nat.zero_le _) hend

end OpenApi

namespace Outline

open OpenApi

variable {document : Document}

theorem baseType_of_typeName_eq_number {param : OpenApi.Parameter} {schema : Schema}
    (hschema : param.schema = some schema) (hnumber : "number" ∉ references schema)
    (hname : schema.typeName = "number") :
    baseType document param = some "integer" ∨ baseType document param = some "number" := by
  cases htarget : schema.target? with
  | some name =>
      rw [Schema.typeName_eq, htarget, Option.getD_some] at hname
      exact absurd (mem_references_of_target? (hname ▸ htarget)) hnumber
  | none =>
      have hself : document.resolve schema = some schema :=
        Document.follow_of_leads .here (Nat.zero_le _) (Schema.target?_eq_none_iff.mp htarget)
      rw [baseType, hschema, Option.bind_some, hself, Option.bind_some]
      exact (or_assoc.mpr (Schema.typeName_eq_number hname)).resolve_right hnumber

/-- A parameter is numeric for its base type alone. -/
theorem hasNumericType_parameter_iff {param : OpenApi.Parameter}
    (hnumber : ∀ schema, param.schema = some schema → "number" ∉ references schema) :
    (parameter document param).hasNumericType = true ↔
      baseType document param = some "integer" ∨ baseType document param = some "number" := by
  have hname : (parameter document param).dataType = "number" →
      baseType document param = some "integer" ∨ baseType document param = some "number" := by
    rw [parameter]
    cases hschema : param.schema with
    | none => simp
    | some schema => exact baseType_of_typeName_eq_number hschema (hnumber schema hschema)
  simp only [Client.Parameter.hasNumericType, Bool.or_eq_true, beq_iff_eq]
  constructor
  · rintro ((((hinteger | hdecimal) | hdata) | hdecimal) | hinteger)
    · exact .inl (beq_iff_eq.mp hinteger)
    · exact .inr (beq_iff_eq.mp hdecimal)
    · exact hname hdata
    · exact .inr hdecimal
    · exact .inl hinteger
  · rintro (hinteger | hdecimal)
    · exact .inr hinteger
    · exact .inl (.inr hdecimal)

/-- Whether a parameter is numeric does not depend on whether its schema is replaced. -/
theorem coarse_parameter_eq {param other : OpenApi.Parameter}
    (hinlines : param.Inlines document other)
    (hparam : ∀ schema, param.schema = some schema → "number" ∉ references schema)
    (hcomponents : ∀ schema ∈ document.schemas.map Prod.snd, "number" ∉ references schema) :
    (parameter document other).coarse = (parameter document param).coarse := by
  cases hinlines with
  | same => rfl
  | @resolved schema target hschema htarget =>
      have hbase : baseType document { param with schema := some target } =
          baseType document param := by
        simp only [baseType, hschema, Option.bind_some, htarget,
          Document.resolve_of_resolve htarget]
      have hnumber : "number" ∉ references target := by
        obtain ⟨_, hleads, _, _⟩ := Document.follow_eq_some_iff.mp htarget
        rcases Document.mem_schemas_of_leads hleads with rfl | hmem
        · exact hparam _ hschema
        · exact hcomponents target hmem
      have hnumeric :
          (parameter document { param with schema := some target }).hasNumericType =
            (parameter document param).hasNumericType := by
        rw [Bool.eq_iff_iff, hasNumericType_parameter_iff hparam, hasNumericType_parameter_iff,
          hbase]
        rintro _ ⟨⟩
        exact hnumber
      simp only [Client.Parameter.coarse, hnumeric]
      simp only [parameter, hbase]

theorem map_replaceParameter (params : List Client.Parameter) (param : Client.Parameter) :
    (replaceParameter params param).map .coarse =
      replaceParameter (params.map .coarse) param.coarse := by
  rw [replaceParameter, replaceParameter, List.map_append, List.filter_map]
  rfl

theorem map_foldl_replaceParameter (own params : List Client.Parameter) :
    (own.foldl replaceParameter params).map .coarse =
      (own.map .coarse).foldl replaceParameter (params.map .coarse) := by
  induction own generalizing params with
  | nil => rfl
  | cons param own ih =>
      rw [List.foldl_cons, ih, map_replaceParameter]
      rfl

theorem map_sentIn (location : Client.Location) (params : List Client.Parameter) :
    (sentIn location params).map .coarse = sentIn location (params.map .coarse) := by
  rw [sentIn, sentIn, List.filter_map]
  rfl

section

variable (hcomponents : ∀ schema ∈ document.schemas.map Prod.snd, "number" ∉ references schema)

include hcomponents

theorem coarse_parameters_eq {params others : Option (List OpenApi.Parameter)}
    (hinlines : InlinesParameters document params others)
    (hparams : ∀ schema ∈ parameterSchemas params, "number" ∉ references schema) :
    ((others.getD []).map (parameter document)).map Client.Parameter.coarse =
      ((params.getD []).map (parameter document)).map Client.Parameter.coarse := by
  rw [List.map_map, List.map_map]
  refine map_eq_map_of_forall₂ hinlines fun param hparam other hother => ?_
  refine coarse_parameter_eq hother (fun schema hschema => ?_) hcomponents
  exact hparams schema (List.mem_filterMap.mpr ⟨param, hparam, hschema⟩)

theorem coarse_operation_eq {op other : OpenApi.Operation}
    {shared sharedOther : Option (List OpenApi.Parameter)}
    (hinlines : Operation.Inlines document op other)
    (hshared : InlinesParameters document shared sharedOther)
    (hnumber : ∀ schema ∈ parameterSchemas shared ++ op.schemas, "number" ∉ references schema)
    (flavour : Flavour) (path : String) (method : Client.Method) :
    (operation document flavour path sharedOther method other).mapParams Client.Parameter.coarse =
      (operation document flavour path shared method op).mapParams Client.Parameter.coarse := by
  obtain ⟨hother, hown⟩ := hinlines
  have hparams : (parameters document sharedOther other.parameters).map Client.Parameter.coarse =
      (parameters document shared op.parameters).map Client.Parameter.coarse := by
    rw [parameters, parameters, map_foldl_replaceParameter, map_foldl_replaceParameter,
      coarse_parameters_eq hcomponents hshared, coarse_parameters_eq hcomponents hown]
    · intro schema hschema
      apply hnumber
      simp [Operation.schemas, hschema]
    · intro schema hschema
      apply hnumber
      simp [hschema]
  rw [hother]
  simp only [operation, Client.Operation.mapParams, map_sentIn, hparams]
  rfl

theorem coarse_operations_eq {item other : PathItem}
    (hinlines : PathItem.Inlines document item other)
    (hnumber : ∀ schema ∈ item.schemas, "number" ∉ references schema)
    (flavour : Flavour) (path : String) :
    (other.operations.map fun found =>
        (operation document flavour path other.parameters found.1 found.2).mapParams
          Client.Parameter.coarse) =
      item.operations.map fun found =>
        (operation document flavour path item.parameters found.1 found.2).mapParams
          Client.Parameter.coarse := by
  obtain ⟨hshared, hoperations⟩ := hinlines
  refine map_eq_map_of_forall₂ hoperations fun found hfound found' hfound' => ?_
  obtain ⟨hmethod, hop⟩ := hfound'
  rw [hmethod]
  refine coarse_operation_eq hcomponents hop hshared (fun schema hschema => ?_) flavour path found.1
  apply hnumber
  rw [PathItem.schemas, List.mem_append]
  exact (List.mem_append.mp hschema).imp_right
    fun hmem => List.mem_flatMap.mpr ⟨found, hfound, hmem⟩

end

/-- Operations of a document whose parameters are replaced are the same but for type names. -/
theorem coarse_outline_eq {other : Document} (hinlines : document.Inlines other)
    (hnumber : "number" ∉ document.references) (flavour : Flavour) :
    (operations other flavour).map (·.mapParams Client.Parameter.coarse) =
      (operations document flavour).map (·.mapParams Client.Parameter.coarse) := by
  obtain ⟨hcomponents, hpaths⟩ := hinlines
  have hschemas : other.schemas = document.schemas := by
    rw [Document.schemas, Document.schemas, hcomponents]
  have hwritten : ∀ schema ∈ document.writtenSchemas, "number" ∉ references schema :=
    fun schema hschema hmem => hnumber (List.mem_flatMap.mpr ⟨schema, hschema, hmem⟩)
  rw [operations, operations, operation_eq_operation hschemas, List.map_flatMap, List.map_flatMap,
    List.flatMap_def, List.flatMap_def]
  congr 1
  refine map_eq_map_of_forall₂ hpaths fun entry hentry entry' hentry' => ?_
  obtain ⟨hpath, hitem⟩ := hentry'
  rw [hpath, List.map_map, List.map_map]
  refine coarse_operations_eq (fun schema hschema => ?_) hitem (fun schema hschema => ?_) flavour
    entry.1
  · exact hwritten schema (List.mem_append_right _ hschema)
  · exact hwritten schema
      (List.mem_append_left _ (List.mem_flatMap.mpr ⟨entry, hentry, hschema⟩))

/-- Where nothing refers to a component `number`, a parameter can have the schema that the
references of its own schema lead to: the operations of the document stay the same but for type
names, as they are outlined and as they are annotated. -/
theorem operations_inlined {document other : Document} (hinlines : document.Inlines other)
    (hnumber : "number" ∉ document.references) (flavour : Flavour) (options : Options) :
    (operations other flavour).map Client.Operation.untyped =
        (operations document flavour).map Client.Operation.untyped ∧
      (operations other flavour).map
          (fun op => (op.annotate options).map Client.Operation.untyped) =
        (operations document flavour).map
          fun op => (op.annotate options).map Client.Operation.untyped := by
  have hcoarse := coarse_outline_eq hinlines hnumber flavour
  constructor
  · have huntyped := congrArg (List.map Client.Operation.untyped) hcoarse
    simpa only [List.map_map, Function.comp_def, Client.Operation.untyped_mapParams_coarse]
      using huntyped
  · have hannotated := congrArg
      (List.map fun op => (op.annotate options).map Client.Operation.untyped) hcoarse
    simpa only [List.map_map, Function.comp_def, Client.Operation.annotate_coarse]
      using hannotated

/-- An item on a shelf, where shelves are shared by the operations of the path and both parameters
have aliases for schemas. -/
def shelf (shelfName itemId : Schema) : Document where
  paths :=
    [("/shelves/\x7bshelf\x7d/items/\x7bitem-id\x7d",
      { parameters := some [{ name := "shelf", location := "path", schema := some shelfName }]
        get := some
          { operationId := some "getItem"
            parameters := some
              [{ name := "item-id", location := "path", schema := some itemId }] } })]
  components := some
    { schemas := some
        [("ShelfName", { type := some (.single "string") }),
          ("ItemId", { reference := some "#/components/schemas/RawId" }),
          ("RawId", { type := some (.single "integer") })] }

theorem operations_inlined_shelf :
    let aliased := shelf { reference := some "#/components/schemas/ShelfName" }
      { reference := some "#/components/schemas/ItemId" }
    let inlined := shelf { type := some (.single "string") } { type := some (.single "integer") }
    let types := fun document => (operations document (.angular {})).map
      fun op => op.pathParams.map Client.Parameter.dataType
    aliased.Inlines inlined ∧ "number" ∉ aliased.references ∧
      types aliased = [["ShelfName", "ItemId"]] ∧ types inlined = [["string", "number"]] ∧
      (operations inlined (.angular {})).map
          (fun op => (op.annotate {}).map Client.Operation.untyped) =
        (operations aliased (.angular {})).map
          fun op => (op.annotate {}).map Client.Operation.untyped := by
  intro aliased inlined types
  have hinlines : aliased.Inlines inlined :=
    ⟨rfl, .cons ⟨rfl, .cons (.resolved rfl rfl) .nil,
      .cons ⟨rfl, rfl, .cons (.resolved rfl rfl) .nil⟩ .nil⟩ .nil⟩
  have hnumber : "number" ∉ aliased.references := by decide +kernel
  exact ⟨hinlines, hnumber, by decide +kernel, by decide +kernel,
    (operations_inlined hinlines hnumber (.angular {}) {}).2⟩

end Outline

end ClientPlan

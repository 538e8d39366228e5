import ClientPlan.Json.Basic
import ClientPlan.Plan.Basic

/-! # Plans as JSON

The JSON value of a plan and of its parts, field by field. -/

namespace ClientPlan

open Client

/-- The JSON value of a parameter. -/
def Client.Parameter.toJson (param : Parameter) : Json :=
  .object [("rawName", .string param.rawName), ("location", .string param.location.word),
    ("required", .bool param.required), ("dataType", .string param.dataType),
    ("baseType", .ofOption param.baseType), ("isInteger", .bool param.isInteger),
    ("isNumber", .bool param.isNumber), ("identifier", .string param.identifier),
    ("isNumeric", .bool param.isNumeric)]

/-- The JSON value of a request body. -/
def Client.Body.toJson (body : Body) : Json :=
  .object [("dataType", .string body.dataType), ("contentType", .string body.contentType),
    ("required", .bool body.required)]

/-- The members that the notes of an operation contribute to its JSON value. -/
def Client.Notes.members (notes : Notes) : List (String × Json) :=
  [("isRetrieval", .bool notes.isRetrieval), ("isMutation", .bool notes.isMutation),
    ("usesResourcePattern", .bool notes.usesResourcePattern),
    ("usesInjectedDependency", .bool notes.usesInjectedDependency),
    ("hasQueryParams", .bool notes.hasQueryParams),
    ("queryParamsInterfaceName", .ofOption notes.queryParamsInterfaceName),
    ("plainPathTemplate", .string notes.plainPathTemplate),
    ("valuePathTemplate", .string notes.valuePathTemplate),
    ("unresolvedPlaceholders", .strings notes.unresolvedPlaceholders)]

/-- The JSON value of an operation. -/
def Client.Operation.toJson (op : Operation) : Json :=
  .object ([("operationId", .string op.operationId), ("method", .string op.method.verb),
    ("tags", .strings op.tags), ("rawPath", .string op.rawPath), ("path", .string op.path),
    ("summary", .ofOption op.summary), ("deprecated", .bool op.deprecated),
    ("pathParams", .array (op.pathParams.map Parameter.toJson)),
    ("queryParams", .array (op.queryParams.map Parameter.toJson)),
    ("headerParams", .array (op.headerParams.map Parameter.toJson)),
    ("cookieParams", .array (op.cookieParams.map Parameter.toJson)),
    ("body", op.body.elim .null Body.toJson), ("responseType", .string op.responseType)] ++
    op.notes.members)

/-- The JSON value of a property. -/
def Client.Property.toJson (property : Property) : Json :=
  .object [("name", .string property.name), ("dataType", .string property.dataType),
    ("optional", .bool property.optional), ("nullable", .bool property.nullable),
    ("useReadonlyModifier", .bool property.useReadonlyModifier)]

/-- The JSON value of a model. -/
def Client.Model.toJson (model : Model) : Json :=
  .object [("name", .string model.name), ("fileName", .string model.fileName),
    ("properties", .array (model.properties.map Property.toJson)),
    ("parents", .strings model.parents), ("enumValues", .strings model.enumValues),
    ("aliasOf", .ofOption model.aliasOf), ("imports", .strings model.imports),
    ("isInputDto", .bool model.isInputDto),
    ("useReadonlyModifier", .bool model.useReadonlyModifier)]

/-- The JSON value of options. -/
def Options.toJson (options : Options) : Json :=
  .object [("useReactiveResource", .bool options.useReactiveResource),
    ("useInjectedDependency", .bool options.useInjectedDependency),
    ("splitResourceArtifacts", .bool options.splitResourceArtifacts),
    ("readonlyOutputModels", .bool options.readonlyOutputModels),
    ("strictPathParameters", .bool options.strictPathParameters),
    ("additionalProperties",
      .object (options.additionalProperties.map fun entry => (entry.1, .string entry.2)))]

/-- The JSON value of what is generated for a tag. -/
def Api.toJson (api : Api) : Json :=
  .object [("tag", .string api.tag), ("className", .string api.className),
    ("fileName", .string api.fileName),
    ("operations", .array (api.operations.map Operation.toJson)),
    ("getOperations", .array (api.getOperations.map Operation.toJson)),
    ("mutationOperations", .array (api.mutationOperations.map Operation.toJson)),
    ("hasGetOperations", .bool api.hasGetOperations),
    ("hasMutationOperations", .bool api.hasMutationOperations),
    ("imports", .strings api.imports)]

/-- The JSON value of the usage of a tag. -/
def Usage.toJson (usage : Usage) : Json :=
  .object [("hasRetrieval", .bool usage.hasRetrieval), ("hasMutation", .bool usage.hasMutation)]

/-- The JSON value of a planned file. -/
def PlannedFile.toJson (file : PlannedFile) : Json :=
  .object [("path", .string file.path), ("kind", .string file.kind.word),
    ("index", .int file.index)]

/-- The JSON value of a plan. -/
def Plan.toJson (plan : Plan) : Json :=
  .object [("generator", .string plan.generator), ("options", plan.options.toJson),
    ("models", .array (plan.models.map Model.toJson)),
    ("apis", .array (plan.apis.map Api.toJson)),
    ("tagUsage", .object (plan.tagUsage.map fun entry => (entry.1, entry.2.toJson))),
    ("skipSet", .strings plan.skipSet)]

end ClientPlan

import ClientPlan.Client.Operation
import ClientPlan.Name.OperationId
import ClientPlan.Options
import ClientPlan.PathTemplate.Basic

/-! # Annotation of operations

The names and path templates that an operation is rendered with. Earlier notes are overwritten,
never read. -/

namespace ClientPlan

/-- A placeholder that no path parameter answers to, where options forbid it. -/
structure UnknownPlaceholder where
  operationId : String
  placeholder : String
  deriving DecidableEq, Inhabited, Repr

/-- The wording of the error. -/
def UnknownPlaceholder.message (error : UnknownPlaceholder) : String :=
  "Operation '" ++ error.operationId ++ "' references unknown path parameter '" ++
    error.placeholder ++ "'"

namespace Client

/-- A parameter with its name in generated code. -/
def Parameter.named (param : Parameter) : Parameter :=
  { param with identifier := Name.camel param.rawName }

/-- A path parameter with its name in generated code, and whether a path may hold it as it is. -/
def Parameter.namedInPath (param : Parameter) : Parameter :=
  { param.named with isNumeric := param.hasNumericType }

namespace Operation

/-- The operation with its kind and its parameter names noted, and no path template yet. -/
def named (op : Operation) (options : Options) : Operation :=
  let hasQuery := !op.queryParams.isEmpty
  { op with
    pathParams := op.pathParams.map Parameter.namedInPath
    queryParams := op.queryParams.map Parameter.named
    notes := { op.notes with
      isRetrieval := op.isRetrieval
      isMutation := !op.isRetrieval
      usesResourcePattern := op.isRetrieval && options.useReactiveResource
      usesInjectedDependency := options.useInjectedDependency
      hasQueryParams := hasQuery
      queryParamsInterfaceName :=
        if hasQuery then some (Name.queryInterface op.operationId) else none } }

/-- The path template of an operation, from its raw path and its path parameters. -/
def template (op : Operation) (dialect : PathTemplate.Dialect) : PathTemplate :=
  PathTemplate.build op.rawPath op.pathParams dialect

/-- The operation with its path templates noted; its path becomes the plain one, unless that is
empty. -/
def withTemplates (op : Operation) : Operation :=
  let plain := op.template .plain
  { op with
    path := if plain.text.isEmpty then op.path else plain.text
    notes := { op.notes with
      unresolvedPlaceholders := plain.unresolved
      plainPathTemplate := plain.text
      valuePathTemplate := (op.template .value).text } }

/-- The operation ready to be rendered. Options can forbid placeholders that no path parameter
answers to; the error names the first. -/
def annotate (op : Operation) (options : Options) : Except UnknownPlaceholder Operation :=
  let op := op.named options
  match (op.template .plain).unresolved with
  | placeholder :: _ =>
    if options.strictPathParameters then .error ⟨op.operationId, placeholder⟩
    else .ok op.withTemplates
  | [] => .ok op.withTemplates

/-- Annotation as a change of the operation. The error comes when kind and names are noted and the
templates are not, and leaves the operation so. -/
def annotateInPlace (options : Options) : ExceptT UnknownPlaceholder (StateM Operation) Unit := do
  modify fun op => op.named options
  let op ← get
  match (op.template .plain).unresolved with
  | placeholder :: _ =>
    if options.strictPathParameters then throw ⟨op.operationId, placeholder⟩
    else set op.withTemplates
  | [] => set op.withTemplates

end Operation

end Client

end ClientPlan

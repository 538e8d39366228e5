import ClientPlan.Client.Method
import ClientPlan.Client.Parameter

/-! # Operations

An operation of the client: what the document says of it, and the notes that decide how it is
rendered. -/

namespace ClientPlan.Client

/-- The body of a request. -/
structure Body where
  /-- The TypeScript type. -/
  dataType : String
  /-- The first declared media type. -/
  contentType : String
  required : Bool
  deriving DecidableEq, Inhabited, Repr

/-- What annotation adds to an operation. -/
structure Notes where
  isRetrieval : Bool := false
  isMutation : Bool := false
  /-- The operation is rendered as a resource and not as a request. -/
  usesResourcePattern : Bool := false
  /-- The service gets its HTTP client by injection. -/
  usesInjectedDependency : Bool := false
  hasQueryParams : Bool := false
  queryParamsInterfaceName : Option String := none
  plainPathTemplate : String := ""
  valuePathTemplate : String := ""
  /-- Placeholders whose names were copied because no path parameter answers to them. -/
  unresolvedPlaceholders : List String := []
  deriving DecidableEq, Inhabited, Repr

/-- An operation of the client. -/
structure Operation where
  /-- The method name. -/
  operationId : String
  method : Method
  /-- The tags by which operations are grouped; each occurs once. -/
  tags : List String
  /-- The path as declared. -/
  rawPath : String
  /-- The path as declared, or its plain template once annotated. -/
  path : String
  summary : Option String
  deprecated : Bool
  pathParams : List Parameter
  queryParams : List Parameter
  headerParams : List Parameter
  cookieParams : List Parameter
  body : Option Body
  responseType : String
  notes : Notes
  deriving DecidableEq, Inhabited, Repr

namespace Operation

/-- Retrieval or mutation. -/
def kind (op : Operation) : Kind :=
  op.method.kind

/-- Whether the operation reads. -/
def isRetrieval (op : Operation) : Bool :=
  op.kind == .retrieval

/-- The retrievals and the mutations among some operations, each in order. -/
def splitByKind (ops : List Operation) : List Operation × List Operation :=
  ops.partition isRetrieval

end Operation

end ClientPlan.Client

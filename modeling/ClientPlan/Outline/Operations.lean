import ClientPlan.Flavour
import ClientPlan.Outline.Parameters

/-! # Operations of the outline

The operations of a document, path by path and in the order of the methods, before annotation. -/

namespace ClientPlan.Outline

open OpenApi

/-- Each element once, at its first place. -/
def distinct : List String → List String
  | [] => []
  | tag :: rest => tag :: (distinct rest).filter (· ≠ tag)

/-- The tags of an operation as they are grouped by; an operation without tags has the tag
`default`. -/
def tags (flavour : Flavour) (declared : Option (List String)) : List String :=
  match declared with
  | some (tag :: rest) => distinct ((tag :: rest).map flavour.tag)
  | _ => [flavour.tag "default"]

/-- The type of a payload, where a schema is declared. -/
def payloadType (content : Option (OrderedMap MediaType)) : Option String :=
  match content with
  | some ((_, media) :: _) => media.schema.map Schema.typeName
  | _ => none

/-- The body of an operation: its first media type. -/
def body (op : Operation) : Option Client.Body :=
  match op.requestBody with
  | some request =>
    match request.content with
    | some ((contentType, media) :: _) =>
      some ⟨(media.schema.map Schema.typeName).getD "unknown", contentType, request.required⟩
    | _ => none
  | none => none

/-- A status of success. -/
def isSuccess (status : String) : Bool :=
  status.toList.head? == some '2'

/-- The type of the first successful response that has one, or `void`. -/
def responseType (op : Operation) : String :=
  ((op.responses.filter fun response => isSuccess response.1).findSome?
    fun response => payloadType response.2.content).getD "void"

/-- An operation of a path, before annotation. -/
def operation (document : Document) (flavour : Flavour) (path : String)
    (shared : Option (List Parameter)) (method : Client.Method) (op : Operation) :
    Client.Operation :=
  let params := parameters document shared op.parameters
  { operationId := flavour.operationId op.operationId method path
    method := method
    tags := tags flavour op.tags
    rawPath := path
    path := path
    summary := op.summary
    deprecated := op.deprecated
    pathParams := sentIn .path params
    queryParams := sentIn .query params
    headerParams := sentIn .header params
    cookieParams := sentIn .cookie params
    body := body op
    responseType := responseType op
    notes := {} }

/-- The operations of a document. -/
def operations (document : Document) (flavour : Flavour) : List Client.Operation :=
  document.paths.flatMap fun entry =>
    entry.2.operations.map fun found =>
      operation document flavour entry.1 entry.2.parameters found.1 found.2

end ClientPlan.Outline

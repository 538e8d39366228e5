import ClientPlan.Client.Method
import ClientPlan.OpenApi.Schema

/-! # Documents

The part of an OpenAPI document that the client is made from. Paths, responses, media types and
components keep the order in which they are written. -/

namespace ClientPlan.OpenApi

/-- A parameter of an operation or of all operations of a path. -/
structure Parameter where
  name : String
  /-- Where the parameter is sent, in the document's own word. -/
  location : String
  required : Bool := false
  schema : Option Schema := none
  deriving Inhabited

/-- The payload of one media type. -/
structure MediaType where
  schema : Option Schema := none
  deriving Inhabited

/-- The body of a request. -/
structure RequestBody where
  required : Bool := false
  content : Option (OrderedMap MediaType) := none
  deriving Inhabited

/-- A response. -/
structure Response where
  description : Option String := none
  content : Option (OrderedMap MediaType) := none
  deriving Inhabited

/-- An operation. -/
structure Operation where
  operationId : Option String := none
  summary : Option String := none
  tags : Option (List String) := none
  parameters : Option (List Parameter) := none
  requestBody : Option RequestBody := none
  /-- The responses by status. -/
  responses : OrderedMap Response := []
  deprecated : Bool := false
  deriving Inhabited

/-- The operations of a path, and the parameters that they share. -/
structure PathItem where
  get : Option Operation := none
  put : Option Operation := none
  post : Option Operation := none
  delete : Option Operation := none
  options : Option Operation := none
  head : Option Operation := none
  patch : Option Operation := none
  trace : Option Operation := none
  parameters : Option (List Parameter) := none
  deriving Inhabited

/-- The reusable parts of a document. -/
structure Components where
  schemas : Option (OrderedMap Schema) := none
  deriving Inhabited

/-- A document. -/
structure Document where
  paths : OrderedMap PathItem := []
  components : Option Components := none
  deriving Inhabited

/-- The operation of a path with the given method. -/
def PathItem.operation? (item : PathItem) : Client.Method → Option Operation
  | .get => item.get
  | .post => item.post
  | .put => item.put
  | .delete => item.delete
  | .patch => item.patch
  | .head => item.head
  | .options => item.options
  | .trace => item.trace

/-- The operations of a path, in the order of the methods. -/
def PathItem.operations (item : PathItem) : List (Client.Method × Operation) :=
  Client.Method.all.filterMap fun method => (item.operation? method).map fun op => (method, op)

namespace Document

/-- The component schemas, in order. -/
def schemas (document : Document) : OrderedMap Schema :=
  (document.components.bind Components.schemas).getD []

/-- The component with the given name. -/
def schema? (document : Document) (name : String) : Option Schema :=
  document.schemas.find? name

/-- Follows the references of a schema for at most the given number of hops. -/
def follow (document : Document) : Nat → Schema → Option Schema
  | hops, schema =>
    match schema.target?, hops with
    | none, _ => some schema
    | some _, 0 => none
    | some name, left + 1 =>
      match document.schema? name with
      | some next => document.follow left next
      | none => none

/-- The longest chain of references that is followed. -/
def maxHops : Nat := 32

/-- The first schema that is no reference, on the way from the given one. A reference to nothing
and a chain that is too long lead to none. -/
def resolve (document : Document) (schema : Schema) : Option Schema :=
  document.follow maxHops schema

end Document

end ClientPlan.OpenApi

import ClientPlan.Flavour
import ClientPlan.OpenApi.Document
import ClientPlan.OpenApi.TypeName

/-! # Models of the outline

The components of a document as models, before annotation. -/

namespace ClientPlan.Outline

open OpenApi

/-- The properties and required names of a schema with the members of `allOf` folded in. -/
structure Merged where
  properties : OrderedMap Schema := []
  required : List String := []
  deriving Inhabited

/-- Adds the own properties and required names of a schema. A property declared again keeps its
place and gets the later schema. -/
def Merged.addOwn (merged : Merged) (schema : Schema) : Merged where
  properties := (schema.properties.getD []).foldl (fun map entry => map.insert entry.1 entry.2)
    merged.properties
  required := merged.required ++ schema.required.getD []

/-- Folds in the members of `allOf`, through references and for at most the given number of
levels, and then the schema's own properties. -/
def Merged.add (document : Document) : Nat → Merged → Schema → Merged
  | 0, merged, schema => merged.addOwn schema
  | levels + 1, merged, schema =>
    let members := (schema.allOf.getD []).filterMap document.resolve
    (members.foldl (Merged.add document levels) merged).addOwn schema

/-- How many levels of `allOf` are folded in. -/
def maxAllOfDepth : Nat := 16

/-- The properties and required names of a component. -/
def merged (document : Document) (schema : Schema) : Merged :=
  Merged.add document maxAllOfDepth {} schema

mutual

/-- The components that a schema refers to, in the order in which they are met. -/
def references : Schema → List String
  | ⟨_, reference, properties, _, items, _, additional, allOf, anyOf, oneOf, _, _⟩ =>
    (match reference with
      | some name => [componentName name]
      | none => []) ++
    optionalPropertyReferences properties ++ optionalMemberReferences allOf ++
      optionalMemberReferences anyOf ++ optionalMemberReferences oneOf ++ itemReferences items ++
      valueReferences additional

/-- The components that properties refer to, where there are any. -/
def optionalPropertyReferences : Option (List (String × Schema)) → List String
  | none => []
  | some properties => propertyReferences properties

/-- The components that properties refer to. -/
def propertyReferences : List (String × Schema) → List String
  | [] => []
  | (_, schema) :: rest => references schema ++ propertyReferences rest

/-- The components that members refer to, where there are any. -/
def optionalMemberReferences : Option (List Schema) → List String
  | none => []
  | some members => memberReferences members

/-- The components that members refer to. -/
def memberReferences : List Schema → List String
  | [] => []
  | member :: rest => references member ++ memberReferences rest

/-- The components that the items of a list refer to. -/
def itemReferences : Option Schema → List String
  | none => []
  | some schema => references schema

/-- The components that additional values refer to. -/
def valueReferences : Option (Additional Schema) → List String
  | none => []
  | some (.allowed _) => []
  | some (.each schema) => references schema

end

/-- Appends a name unless it is there. -/
def addNew (names : List String) (name : String) : List String :=
  if name ∈ names then names else names ++ [name]

/-- The models that a model extends: the references among the members of `allOf`, itself
excepted. -/
def parents (name : String) (schema : Schema) : List String :=
  ((schema.allOf.getD []).filterMap Schema.target?).filter (· ≠ name)

/-- The models that a model refers to: its parents, then the references of its properties and of
the schema itself that are not yet listed, itself excepted. -/
def imports (name : String) (schema : Schema) (properties : OrderedMap Schema) : List String :=
  let met := properties.flatMap (fun entry => references entry.2) ++ references schema
  (met.foldl addNew (parents name schema)).filter (· ≠ name)

/-- The string members of an enumeration. -/
def enumStrings (schema : Schema) : List String :=
  (schema.enumValues.getD []).filterMap fun
    | .string value => some value
    | _ => none

/-- A property of a model. -/
def property (required : List String) (name : String) (schema : Schema) : Client.Property where
  name := name
  dataType := schema.typeName
  optional := !required.contains name
  nullable := schema.isNullable

/-- A component as a model, before annotation. -/
def model (document : Document) (flavour : Flavour) (name : String) (schema : Schema) :
    Client.Model :=
  let merged := merged document schema
  let enumValues := enumStrings schema
  let isComposed := schema.properties.isSome || schema.allOf.isSome
  { name := name
    fileName := flavour.modelFile name
    properties := merged.properties.map fun entry => property merged.required entry.1 entry.2
    parents := parents name schema
    enumValues := enumValues
    aliasOf := if !isComposed && enumValues.isEmpty then some schema.typeName else none
    imports := imports name schema merged.properties }

/-- The components of a document as models. -/
def models (document : Document) (flavour : Flavour) : List Client.Model :=
  document.schemas.map fun entry => model document flavour entry.1 entry.2

end ClientPlan.Outline

import ClientPlan.Json.Basic
import ClientPlan.OrderedMap

/-! # Schemas

The part of a JSON schema that decides the TypeScript type of a value, and what is read off it
without following references. -/

namespace ClientPlan.OpenApi

/-- The declared type of a schema: one name, or several. -/
inductive TypeNames where
  | single (name : String)
  | multiple (names : List String)
  deriving DecidableEq, Inhabited, Repr

/-- What a schema says of keys that are no property: whether they are allowed, or the schema of
their values. -/
inductive Additional (σ : Type) where
  | allowed (value : Bool)
  | each (schema : σ)
  deriving Inhabited, Repr

/-- A schema. -/
structure Schema where
  type : Option TypeNames := none
  /-- The component referred to, as written in the document. -/
  reference : Option String := none
  properties : Option (List (String × Schema)) := none
  required : Option (List String) := none
  items : Option Schema := none
  enumValues : Option (List Json) := none
  additionalProperties : Option (Additional Schema) := none
  allOf : Option (List Schema) := none
  anyOf : Option (List Schema) := none
  oneOf : Option (List Schema) := none
  format : Option String := none
  nullable : Option Bool := none
  deriving Inhabited

/-- What a reference to a component begins with. -/
def componentPrefix : String :=
  "#/components/schemas/"

/-- The component that a reference names: what follows the usual beginning, or the whole. -/
def componentName (reference : String) : String :=
  match componentPrefix.toList.isPrefixOf reference.toList with
  | true => String.ofList (reference.toList.drop componentPrefix.length)
  | false => reference

namespace Schema

/-- The component that the schema itself refers to. -/
def target? (schema : Schema) : Option String :=
  schema.reference.map componentName

/-- The schema is declared as nothing but null. -/
def isNullType (schema : Schema) : Bool :=
  schema.type == some (.single "null")

/-- The declared type names contain null among several. -/
def listsNull (schema : Schema) : Bool :=
  match schema.type with
  | some (.multiple names) => names.contains "null"
  | _ => false

/-- A schema accepts null by its flag, by a member of `anyOf`, or by one of several types. -/
def isNullable (schema : Schema) : Bool :=
  schema.nullable == some true || (schema.anyOf.getD []).any isNullType || schema.listsNull

mutual

/-- The first declared type other than null, looking into `anyOf` and `oneOf` where no type is
declared. A single declared type counts even if it is null. -/
def primaryType? : Schema → Option String
  | ⟨some (.single name), _, _, _, _, _, _, _, _, _, _, _⟩ => some name
  | ⟨some (.multiple names), _, _, _, _, _, _, _, _, _, _, _⟩ => names.find? (· ≠ "null")
  | ⟨none, _, _, _, _, _, _, _, anyOf, oneOf, _, _⟩ =>
    match firstOptionType? anyOf with
    | some name => some name
    | none => firstOptionType? oneOf

/-- The first type other than null among optional members. -/
def firstOptionType? : Option (List Schema) → Option String
  | none => none
  | some members => firstType? members

/-- The first type other than null among some members. -/
def firstType? : List Schema → Option String
  | [] => none
  | member :: rest =>
    match primaryType? member with
    | some name => if name = "null" then firstType? rest else some name
    | none => firstType? rest

end

mutual

/-- The component that a schema stands for: the one it refers to, else the first found among the
members of `anyOf`, `oneOf` and `allOf`. -/
def refName? : Schema → Option String
  | ⟨_, some reference, _, _, _, _, _, _, _, _, _, _⟩ => some (componentName reference)
  | ⟨_, none, _, _, _, _, _, allOf, anyOf, oneOf, _, _⟩ =>
    match firstOptionName? anyOf with
    | some name => some name
    | none =>
      match firstOptionName? oneOf with
      | some name => some name
      | none => firstOptionName? allOf

/-- The first component that one of some optional members stands for. -/
def firstOptionName? : Option (List Schema) → Option String
  | none => none
  | some members => firstName? members

/-- The first component that one of some members stands for. -/
def firstName? : List Schema → Option String
  | [] => none
  | member :: rest =>
    match refName? member with
    | some name => some name
    | none => firstName? rest

end

end Schema

end ClientPlan.OpenApi

import ClientPlan.OpenApi.Schema

/-! # Type names

The TypeScript type that is written for a schema. -/

namespace ClientPlan.OpenApi.Schema

/-- The type written for a schema without a reference, given its items' type, the type of its
additional values and the component it stands for. -/
def plainTypeName (primary : Option String) (format : Option String) (item : Option String)
    (value : Option String) (component : Option String) : String :=
  match primary with
  | some "integer" => "number"
  | some "number" => "number"
  | some "boolean" => "boolean"
  | some "string" => if format = some "binary" then "Blob" else "string"
  | some "array" => "Array<" ++ item.getD "unknown" ++ ">"
  | some "object" => "Record<string, " ++ value.getD "unknown" ++ ">"
  | _ => component.getD "unknown"

mutual

/-- The TypeScript type of a schema. -/
def typeName : Schema → String
  | ⟨type, reference, properties, required, items, enumValues, additional, allOf, anyOf, oneOf,
      format, nullable⟩ =>
    match reference with
    | some name => componentName name
    | none =>
      let self : Schema := ⟨type, none, properties, required, items, enumValues, additional,
        allOf, anyOf, oneOf, format, nullable⟩
      plainTypeName self.primaryType? format (itemTypeName? items) (valueTypeName? additional)
        self.refName?

/-- The type of the items of a list, where it is declared. -/
def itemTypeName? : Option Schema → Option String
  | none => none
  | some schema => some (typeName schema)

/-- The type of the additional values, where they have a schema. -/
def valueTypeName? : Option (Additional Schema) → Option String
  | none => none
  | some (.allowed _) => none
  | some (.each schema) => some (typeName schema)

end

end ClientPlan.OpenApi.Schema

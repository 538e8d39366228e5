import ClientPlan.Client.Model
import ClientPlan.Code.Basic

/-! # Model files

The declaration of a model: a union of literals, an alias, or an interface. -/

namespace ClientPlan.Code

open Client

/-- A property of an interface. -/
structure PropertyLine where
  readonly : Bool
  name : String
  optional : Bool
  type : String
  nullable : Bool
  deriving DecidableEq, Inhabited, Repr

/-- The line of a property. -/
def PropertyLine.text (property : PropertyLine) : String :=
  "  " ++ (if property.readonly then "readonly " else "") ++ property.name ++
    (if property.optional then "?" else "") ++ ": " ++ property.type ++
    (if property.nullable then " | null" else "") ++ ";"

/-- What a model file declares. -/
inductive Declaration where
  /-- A union of string literals. -/
  | union (name : String) (values : List String)
  | alias (name type : String)
  | interface (name : String) (parents : List String) (properties : List PropertyLine)
  deriving DecidableEq, Inhabited, Repr

namespace Declaration

/-- The declaration of a model: of its values if it has any, else of what it stands for, else of its
properties. -/
def ofModel (model : Model) : Declaration :=
  if !model.enumValues.isEmpty then union model.name model.enumValues
  else
    let type := model.aliasOf.getD ""
    if !type.isEmpty then .alias model.name type
    else
      interface model.name model.parents <| model.properties.map fun property =>
        { readonly := property.useReadonlyModifier
          name := property.name
          optional := property.optional
          type := property.dataType
          nullable := property.nullable }

/-- The lines of a declaration. -/
def lines : Declaration → List String
  | union name values =>
    ["export type " ++ name ++ " = " ++
      " | ".intercalate (values.map fun value => "'" ++ value ++ "'") ++ ";"]
  | .alias name type => ["export type " ++ name ++ " = " ++ type ++ ";"]
  | interface name parents properties =>
    ["export interface " ++ name ++
      (if parents.isEmpty then "" else " extends " ++ ", ".intercalate parents) ++ " \x7b"] ++
      properties.map PropertyLine.text ++ ["\x7d"]

end Declaration

/-- A model file. -/
structure ModelFile where
  imports : List Import
  declaration : Declaration
  deriving DecidableEq, Inhabited, Repr

/-- The lines of a model file. -/
def ModelFile.lines (file : ModelFile) : List String :=
  [header] ++ file.imports.map Import.text ++ [""] ++ file.declaration.lines

end ClientPlan.Code

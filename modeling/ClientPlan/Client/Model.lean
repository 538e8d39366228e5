/-! # Models

A component of the document as a TypeScript declaration. -/

namespace ClientPlan.Client

/-- A property of a model. -/
structure Property where
  name : String
  /-- The TypeScript type. -/
  dataType : String
  optional : Bool
  nullable : Bool
  useReadonlyModifier : Bool := false
  deriving DecidableEq, Inhabited, Repr

/-- A component of the document. -/
structure Model where
  name : String
  /-- The stem of the file that holds the model. -/
  fileName : String
  properties : List Property
  /-- The models it extends. -/
  parents : List String
  /-- The members of a string enumeration. -/
  enumValues : List String
  /-- The type it stands for, where it is no object, no enumeration and no composition. -/
  aliasOf : Option String
  /-- The models it refers to. -/
  imports : List String
  isInputDto : Bool := false
  useReadonlyModifier : Bool := false
  deriving DecidableEq, Inhabited, Repr

/-- The endings of the names of models that are sent and not received. -/
def inputSuffixes : List String :=
  ["Create", "Update", "Request", "Input"]

/-- Whether a model of that name is sent and not received. -/
def isInputName (name : String) : Bool :=
  inputSuffixes.any fun suffix => suffix.toList.isSuffixOf name.toList

/-- Marks the model and its properties as read-only, if `readonly` asks for it and the model is
received. -/
def Model.annotate (model : Model) (readonly : Bool) : Model :=
  let isInput := isInputName model.name
  let marked := readonly && !isInput
  { model with
    isInputDto := isInput
    useReadonlyModifier := marked
    properties := model.properties.map fun property =>
      { property with useReadonlyModifier := marked } }

end ClientPlan.Client

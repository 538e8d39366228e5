/-! # Parameters of operations

A parameter as the client sees it: its wire name, where it is sent, and its type. -/

namespace ClientPlan.Client

/-- Where a parameter is sent. -/
inductive Location where
  | path
  | query
  | header
  | cookie
  deriving DecidableEq, Inhabited, Repr

/-- The location that the word of a document means; an unknown word means the query. -/
def Location.ofWord (word : String) : Location :=
  match word with
  | "path" => path
  | "header" => header
  | "cookie" => cookie
  | _ => query

/-- The word for a location. -/
def Location.word : Location → String
  | path => "path"
  | query => "query"
  | header => "header"
  | cookie => "cookie"

/-- A parameter of an operation. -/
structure Parameter where
  /-- The name on the wire. -/
  rawName : String
  location : Location
  required : Bool
  /-- The TypeScript type. -/
  dataType : String
  /-- The declared type of the schema behind any reference. -/
  baseType : Option String
  isInteger : Bool
  isNumber : Bool
  /-- The name in generated code. -/
  identifier : String
  /-- Whether a path may hold the value without encoding it. -/
  isNumeric : Bool
  deriving DecidableEq, Inhabited, Repr

/-- A numeric type by one of the flags, by the data type or by the base type. -/
def Parameter.hasNumericType (param : Parameter) : Bool :=
  param.isInteger || param.isNumber || param.dataType == "number" ||
    param.baseType == some "number" || param.baseType == some "integer"

end ClientPlan.Client

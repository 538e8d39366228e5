import ClientPlan.Client.Operation

/-! # Pieces of code

Imports, parameters, constants and interfaces, as they stand in generated files. A file is a list
of lines. -/

namespace ClientPlan.Code

open Client

/-- Text between braces. -/
def braced (text : String) : String :=
  "\x7b " ++ text ++ " \x7d"

/-- The first line of every file. -/
def header : String :=
  "// Generated by ngen. Do not edit."

/-- The text of some lines. -/
def unlines (lines : List String) : String :=
  String.join (lines.map (· ++ "\n"))

/-- Names that a file takes from another. -/
structure Import where
  names : List String
  source : String
  deriving DecidableEq, Inhabited, Repr

/-- The line of an import. -/
def Import.text (item : Import) : String :=
  "import " ++ braced (", ".intercalate item.names) ++ " from '" ++ item.source ++ "';"

/-- A parameter of a function, or a member of an interface. -/
structure Param where
  name : String
  type : String
  optional : Bool := false
  deriving DecidableEq, Inhabited, Repr

/-- A parameter with its type. -/
def Param.text (param : Param) : String :=
  param.name ++ (if param.optional then "?" else "") ++ ": " ++ param.type

/-- A constant that a function declares. -/
structure Const where
  name : String
  value : String
  deriving DecidableEq, Inhabited, Repr

/-- The line of a constant. -/
def Const.text (item : Const) : String :=
  "const " ++ item.name ++ " = " ++ item.value ++ ";"

/-- The constant that holds the encoded text of a value. -/
def encoded (identifier value : String) : Const :=
  ⟨identifier ++ "Path", "encodeURIComponent(String(" ++ value ++ "))"⟩

/-- The constant that a function of signals declares for a path parameter: its value if it is
numeric, and its encoded text otherwise. -/
def signalConst (param : Parameter) : Const :=
  if param.isNumeric then ⟨param.identifier ++ "Value", param.identifier ++ "()"⟩
  else encoded param.identifier (param.identifier ++ "()")

/-- The constants that a function of plain values declares: the encoded text of every path parameter
that is not numeric. -/
def plainConsts (params : List Parameter) : List Const :=
  (params.filter fun param => !param.isNumeric).map fun param =>
    encoded param.identifier param.identifier

/-- The interface of the query parameters of an operation. -/
structure QueryInterface where
  name : String
  /-- The members, by their names on the wire. -/
  members : List Param
  deriving DecidableEq, Inhabited, Repr

/-- The name of the query interface of an operation with query parameters. -/
def queryName? (op : Operation) : Option String :=
  if op.notes.hasQueryParams then some (op.notes.queryParamsInterfaceName.getD "") else none

/-- The query interface of an operation with query parameters. -/
def queryInterface? (op : Operation) : Option QueryInterface :=
  (queryName? op).map fun name =>
    { name := name
      members := op.queryParams.map fun param =>
        ⟨"'" ++ param.rawName ++ "'", param.dataType, !param.required⟩ }

/-- The lines of an interface, after an empty one. -/
def QueryInterface.lines (item : QueryInterface) : List String :=
  ["", "export interface " ++ item.name ++ " \x7b"] ++
    item.members.map (fun member => "  " ++ member.text ++ ";") ++ ["\x7d"]

/-- The comment that holds a summary, unless it is empty. -/
def summaryComment (summary : Option String) : List String :=
  match summary with
  | some text => if text.isEmpty then [] else ["/** " ++ text ++ " */"]
  | none => []

end ClientPlan.Code

import ClientPlan.Code.Basic

/-! # Functions of operations

A resource fetches whenever the values that it reads change. A request is sent by a method of a
service. -/

namespace ClientPlan.Code

open Client

/-- A resource function. -/
structure Resource where
  name : String
  summary : Option String
  /-- One parameter for each path parameter. -/
  pathParams : List Param
  /-- The interface of the query parameters. -/
  query : Option String
  consts : List Const
  response : String
  /-- The body of the template literal of the address. -/
  url : String
  deriving DecidableEq, Inhabited, Repr

/-- A resource function for an operation, whose values are read as `readType` says. -/
def Resource.ofOperation (readType : String → String) (op : Operation) : Resource where
  name := op.operationId ++ "Resource"
  summary := op.summary
  pathParams := op.pathParams.map fun param => ⟨param.identifier, readType param.dataType, false⟩
  query := queryName? op
  consts := op.pathParams.map signalConst
  response := op.responseType
  url := op.notes.valuePathTemplate

/-- The lines of the body of a resource function. -/
def Resource.body (item : Resource) : List String :=
  ["  return httpResource<" ++ item.response ++ ">(() => \x7b"] ++
    item.consts.map (fun const => "    " ++ const.text) ++
    ["    return \x7b", "      url: `" ++ item.url ++ "`,"] ++
    (if item.query.isSome then ["      params: " ++ braced "...(params?.() ?? \x7b\x7d)" ++ ","]
      else []) ++
    ["    \x7d;", "  \x7d);", "\x7d"]

/-- The type of a value that is read from a signal. -/
def signalType (type : String) : String :=
  "Signal<" ++ type ++ ">"

/-- The type of a value that is read by a call. -/
def callType (type : String) : String :=
  "() => " ++ type

/-- The parameter that holds the query parameters of a resource. -/
def Resource.queryParam? (item : Resource) (readType : String → String) : Option Param :=
  item.query.map fun name => ⟨"params", readType (name ++ " | undefined"), true⟩

/-- The lines of a resource function of signals, after an empty one. -/
def Resource.functionLines (item : Resource) : List String :=
  [""] ++ summaryComment item.summary ++ ["export function " ++ item.name ++ "("] ++
    (item.pathParams ++ (item.queryParam? signalType).toList).map
      (fun param => "  " ++ param.text ++ ",") ++
    [") \x7b"] ++ item.body

/-- Parameters on one line, each with a comma after it. -/
def inlineParams (params : List Param) : String :=
  String.join (params.map fun param => param.text ++ ", ")

/-- The lines of a resource method of a service, after an empty one. -/
def Resource.methodLines (item : Resource) : List String :=
  "" :: (summaryComment item.summary ++
    [item.name ++ "(" ++ inlineParams item.pathParams ++
      ((item.queryParam? callType).elim "" Param.text) ++ ") \x7b"] ++ item.body).map ("  " ++ ·)

/-- A method that sends a request. -/
structure Request where
  name : String
  deprecated : Bool
  summary : Option String
  pathParams : List Param
  /-- The parameter of the body. -/
  body : Option Param
  /-- The interface of the query parameters. -/
  query : Option String
  consts : List Const
  response : String
  verb : String
  /-- The body of the template literal of the address. -/
  url : String
  deriving DecidableEq, Inhabited, Repr

/-- The request of an operation. -/
def Request.ofOperation (op : Operation) : Request where
  name := op.operationId
  deprecated := op.deprecated
  summary := op.summary
  pathParams := op.pathParams.map fun param => ⟨param.identifier, param.dataType, false⟩
  body := op.body.map fun body => ⟨"body", body.dataType, !body.required⟩
  query := queryName? op
  consts := plainConsts op.pathParams
  response := op.responseType
  verb := op.method.verb
  url := op.notes.plainPathTemplate

/-- The parameter that holds the query parameters of a request. -/
def Request.queryParam? (item : Request) : Option Param :=
  item.query.map fun name => ⟨"params", name, true⟩

/-- The comment before a request: that it is deprecated, or else its summary. -/
def Request.comment (item : Request) : List String :=
  if item.deprecated then ["/** @deprecated */"] else summaryComment item.summary

/-- The lines of a request, after an empty one. -/
def Request.lines (item : Request) : List String :=
  "" :: (item.comment ++
    [item.name ++ "(" ++ inlineParams (item.pathParams ++ item.body.toList) ++
      (item.queryParam?.elim "" Param.text) ++ "): Observable<" ++ item.response ++ "> \x7b"] ++
    item.consts.map (fun const => "  " ++ const.text) ++
    ["  return this.http.request<" ++ item.response ++ ">('" ++ item.verb ++ "', `" ++ item.url ++
      "`, \x7b"] ++
    (if item.body.isSome then ["    body,"] else []) ++
    (if item.query.isSome then ["    params: " ++ braced "...(params ?? \x7b\x7d)" ++ ","]
      else []) ++
    ["  \x7d);", "\x7d"]).map ("  " ++ ·)

end ClientPlan.Code

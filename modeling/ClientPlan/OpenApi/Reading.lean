import ClientPlan.Json.Reader
import ClientPlan.OpenApi.Document
import ClientPlan.OpenApi.SchemaReading
import ClientPlan.Text.Blank
import ClientPlan.Yaml.Reader

/-! # Reading documents

A document is read record by record. Names that are no field of a record are passed over. -/

namespace ClientPlan.OpenApi

open Source

/-- A field that may be left out but not null. -/
def defaultedField {ρ α : Type} (name : String) (read : Node → Except Problem α)
    (set : α → ρ → ρ) : Source.Field ρ :=
  ⟨name, .defaulted, fun node => (read node).map set⟩

/-- A field that may not be left out. -/
def requiredField {ρ α : Type} (name : String) (read : Node → Except Problem α)
    (set : α → ρ → ρ) : Source.Field ρ :=
  ⟨name, .required, fun node => (read node).map set⟩

/-- The record before its fields are set. -/
def Parameter.start : Parameter :=
  { name := "", location := "" }

/-- Reads a parameter. -/
def readParameter (context : Context) (depth : Nat) : Node → Except Problem Parameter :=
  readRecord context depth
    [requiredField "name" (readText context) fun value p => { p with name := value },
      requiredField "in" (readText context) fun value p => { p with location := value },
      defaultedField "required" (readBool context) fun value p => { p with required := value },
      .option context "schema" (readSchema (depth - 1) context) fun value p =>
        { p with schema := value }]
    Parameter.start

/-- Reads the payload of a media type. -/
def readMediaType (context : Context) (depth : Nat) : Node → Except Problem MediaType :=
  readRecord context depth
    [.option context "schema" (readSchema (depth - 1) context) fun value m =>
      { m with schema := value }] {}

/-- Reads payloads by media type. -/
def readContent (context : Context) (depth : Nat) :
    Node → Except Problem (OrderedMap MediaType) :=
  readMap context depth (readMediaType context (depth - 1))

/-- Reads a request body. -/
def readRequestBody (context : Context) (depth : Nat) : Node → Except Problem RequestBody :=
  readRecord context depth
    [defaultedField "required" (readBool context) fun value b => { b with required := value },
      .option context "content" (readContent context (depth - 1)) fun value b =>
        { b with content := value }] {}

/-- Reads a response. -/
def readResponse (context : Context) (depth : Nat) : Node → Except Problem Response :=
  readRecord context depth
    [.option context "description" (readText context) fun value r =>
        { r with description := value },
      .option context "content" (readContent context (depth - 1)) fun value r =>
        { r with content := value }] {}

/-- Reads a list of parameters. -/
def readParameters (context : Context) (depth : Nat) : Node → Except Problem (List Parameter) :=
  readList context depth (readParameter context (depth - 1))

/-- Reads an operation. -/
def readOperation (context : Context) (depth : Nat) : Node → Except Problem Operation :=
  let inner := depth - 1
  readRecord context depth
    [.option context "operationId" (readText context) fun value o =>
        { o with operationId := value },
      .option context "summary" (readText context) fun value o => { o with summary := value },
      .option context "tags" (readTexts context inner) fun value o => { o with tags := value },
      .option context "parameters" (readParameters context inner) fun value o =>
        { o with parameters := value },
      .option context "requestBody" (readRequestBody context inner) fun value o =>
        { o with requestBody := value },
      defaultedField "responses" (readMap context inner (readResponse context (inner - 1)))
        fun value o => { o with responses := value },
      defaultedField "deprecated" (readBool context) fun value o =>
        { o with deprecated := value }] {}

/-- Reads the operations of a path. -/
def readPathItem (context : Context) (depth : Nat) : Node → Except Problem PathItem :=
  let read := readOperation context (depth - 1)
  readRecord context depth
    [.option context "get" read fun value p => { p with get := value },
      .option context "put" read fun value p => { p with put := value },
      .option context "post" read fun value p => { p with post := value },
      .option context "delete" read fun value p => { p with delete := value },
      .option context "options" read fun value p => { p with options := value },
      .option context "head" read fun value p => { p with head := value },
      .option context "patch" read fun value p => { p with patch := value },
      .option context "trace" read fun value p => { p with trace := value },
      .option context "parameters" (readParameters context (depth - 1)) fun value p =>
        { p with parameters := value }] {}

/-- Reads the reusable parts. -/
def readComponents (context : Context) (depth : Nat) : Node → Except Problem Components :=
  readRecord context depth
    [.option context "schemas"
      (readMap context (depth - 1) (readSchema (depth - 1 - 1) context)) fun value c =>
        { c with schemas := value }] {}

/-- Reads a document. -/
def readDocument (context : Context) (depth : Nat) : Node → Except Problem Document :=
  readRecord context depth
    [defaultedField "paths" (readMap context (depth - 1) (readPathItem context (depth - 1 - 1)))
        fun value d => { d with paths := value },
      .option context "components" (readComponents context (depth - 1)) fun value d =>
        { d with components := value }] {}

/-- How deeply the kept values of a JSON text may nest. -/
def jsonDepth : Nat := 127

/-- Reads a JSON text as a whole. Text after the value is looked at last. -/
def readJsonText {α : Type} (read : Context → Nat → Node → Except Problem α) (text : String) :
    Except Problem α := do
  let (node, complete) := Json.read text.toList
  let value ← read {} jsonDepth node
  requireClosed complete
  return value

/-- Why a text holds no document, by the format in which it is read. -/
inductive DocumentError where
  | json (problem : Problem)
  | yaml (problem : Problem)
  deriving DecidableEq, Inhabited, Repr

/-- The wording of the error; what is wrong in detail is not said. -/
def DocumentError.message (_ : DocumentError) : String :=
  "Failed to parse OpenAPI document: "

/-- The schema in a JSON text. -/
def Schema.ofJson (text : String) : Except Problem Schema :=
  readJsonText (fun context depth => readSchema depth context) text

/-- How deeply the kept values of a YAML text may nest. -/
def yamlDepth : Nat := 128

/-- Reads a YAML text as a whole. -/
def readYamlText {α : Type} (read : Context → Nat → Node → Except Problem α) (text : String) :
    Except Problem α :=
  match Yaml.read? text.toList with
  | some (node, anchors) => read { anchors := anchors, positional := false } yamlDepth node
  | none => .error .unreadable

namespace Document

/-- The document in a JSON text. -/
def ofJson (text : String) : Except DocumentError Document :=
  (readJsonText readDocument text).mapError .json

/-- The document in a YAML text. -/
def ofYaml (text : String) : Except DocumentError Document :=
  (readYamlText readDocument text).mapError .yaml

/-- The document in a text, which is JSON if it begins with an opening brace after white space, and
YAML otherwise. -/
def ofText (text : String) : Except DocumentError Document :=
  if (Text.trimStart text.toList).head? = some '{' then ofJson text else ofYaml text

end Document

end ClientPlan.OpenApi

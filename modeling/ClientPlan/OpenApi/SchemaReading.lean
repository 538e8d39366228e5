import ClientPlan.OpenApi.Schema
import ClientPlan.Source.Reading

/-! # Reading schemas

A type and the schema of additional values can have two shapes each. Such a value is settled
first, and then the shapes are tried one after the other. -/

namespace ClientPlan.OpenApi

open Source

/-- A list of strings. -/
def readTexts (context : Context) (depth : Nat) : Node → Except Problem (List String) :=
  readList context depth (readText context)

/-- The declared type: a string or a list of strings. -/
def readTypeNames (context : Context) (depth : Nat) (node : Node) : Except Problem TypeNames := do
  match ← settle context depth node with
  | .text name => return .single name
  | .list items _ =>
    match items.mapM (readText {}) with
    | .ok names => return .multiple names
    | .error _ => throw .wrongShape
  | _ => throw .wrongShape

/-- What is said of additional keys: a truth value, or a schema, which `read` reads from a settled
node. -/
def readAdditional (context : Context) (depth : Nat) (read : Node → Except Problem Schema)
    (node : Node) : Except Problem (Additional Schema) := do
  match ← settle context depth node with
  | .bool value => return .allowed value
  | settled =>
    match read settled with
    | .ok schema => return .each schema
    | .error _ => throw .wrongShape

/-- The fields of a schema whose values may nest to the given depth; `read` reads a schema that is
a value, and `readWithin` one that is inside a list or a map, given a context. -/
def schemaFields (context : Context) (depth : Nat)
    (read readWithin : Context → Node → Except Problem Schema) : List (Source.Field Schema) :=
  let schemas := readList context depth (readWithin context)
  [.option context "type" (readTypeNames context depth) fun value s => { s with type := value },
    .option context "$ref" (readText context) fun value s => { s with reference := value },
    .option context "properties" (readMap context depth (readWithin context)) fun value s =>
      { s with properties := value },
    .option context "required" (readTexts context depth) fun value s =>
      { s with required := value },
    .option context "items" (read context) fun value s => { s with items := value },
    .option context "enum" (readList context depth (readJson context (depth - 1)))
      fun value s => { s with enumValues := value },
    .option context "additionalProperties" (readAdditional context depth (read {}))
      fun value s => { s with additionalProperties := value },
    .option context "allOf" schemas fun value s => { s with allOf := value },
    .option context "anyOf" schemas fun value s => { s with anyOf := value },
    .option context "oneOf" schemas fun value s => { s with oneOf := value },
    .option context "format" (readText context) fun value s => { s with format := value },
    .option context "nullable" (readBool context) fun value s => { s with nullable := value }]

/-- What is read where nothing may nest any more. -/
def refuseNesting : Context → Node → Except Problem Schema :=
  fun _ _ => .error .tooDeep

/-- Reads a schema that may nest to the given depth. -/
def readSchema : Nat → Context → Node → Except Problem Schema
  | 0, context, node =>
    readRecord context 0 (schemaFields context 0 refuseNesting refuseNesting) {} node
  | 1, context, node =>
    readRecord context 1 (schemaFields context 0 (readSchema 0) refuseNesting) {} node
  | depth + 2, context, node =>
    readRecord context (depth + 2)
      (schemaFields context (depth + 1) (readSchema (depth + 1)) (readSchema depth)) {} node

end ClientPlan.OpenApi

import Mathlib.Logic.Relation
import ClientPlan.Proofs.Json.Nesting

/-! # Edits that a document does not show

An object that is read as a record may have members that are no field of it, and its members may
stand in any order. Such objects are found by what the values above them are read as: which fields a
record has, and which of them hold records, lists or maps of records.
-/

namespace ClientPlan.OpenApi

open Json

/-- The records of a document. -/
inductive RecordKind where
  | document
  | components
  | pathItem
  | operation
  | parameter
  | requestBody
  | response
  | mediaType
  | schema
  deriving DecidableEq, Repr

/-- What a value is read as, by the records that it holds. -/
inductive Content where
  /-- No records. -/
  | plain
  | record (kind : RecordKind)
  | list (kind : RecordKind)
  | map (kind : RecordKind)
  /-- A truth value, or a schema. -/
  | additional
  deriving DecidableEq, Repr

namespace RecordKind

/-- The fields of a record in order, each with what it is read as. -/
def fields : RecordKind → List (String × Content)
  | document => [("paths", .map pathItem), ("components", .record components)]
  | components => [("schemas", .map schema)]
  | pathItem =>
    [("get", .record operation), ("put", .record operation), ("post", .record operation),
      ("delete", .record operation), ("options", .record operation), ("head", .record operation),
      ("patch", .record operation), ("trace", .record operation), ("parameters", .list parameter)]
  | operation =>
    [("operationId", .plain), ("summary", .plain), ("tags", .plain),
      ("parameters", .list parameter), ("requestBody", .record requestBody),
      ("responses", .map response), ("deprecated", .plain)]
  | parameter =>
    [("name", .plain), ("in", .plain), ("required", .plain), ("schema", .record schema)]
  | requestBody => [("required", .plain), ("content", .map mediaType)]
  | response => [("description", .plain), ("content", .map mediaType)]
  | mediaType => [("schema", .record schema)]
  | schema =>
    [("type", .plain), ("$ref", .plain), ("properties", .map schema), ("required", .plain),
      ("items", .record schema), ("enum", .plain), ("additionalProperties", .additional),
      ("allOf", .list schema), ("anyOf", .list schema), ("oneOf", .list schema),
      ("format", .plain), ("nullable", .plain)]

/-- The names of the fields. -/
def names (kind : RecordKind) : List String :=
  kind.fields.map Prod.fst

theorem nodup_names (kind : RecordKind) : kind.names.Nodup := by
  cases kind <;> decide

end RecordKind

/-- One edit in a value that is read as something: a member that is no field is put into the object
of a record, or the members of such an object are put in another order. The object may stand
anywhere inside, under a field, among the items of a list, among the values of a map, or as the
schema of additional values. -/
inductive Edit : Content → Json → Json → Prop where
  | insert {kind : RecordKind} {name : String} (before after : List (String × Json))
      (hname : name ∉ kind.names) (value : Json) :
      Edit (.record kind) (.object (before ++ after)) (.object (before ++ (name, value) :: after))
  | reorder {kind : RecordKind} {members others : List (String × Json)}
      (hperm : members.Perm others) : Edit (.record kind) (.object members) (.object others)
  | member {kind : RecordKind} {name : String} {content : Content} {value other : Json}
      (before after : List (String × Json)) (hfield : (name, content) ∈ kind.fields)
      (hvalue : Edit content value other) :
      Edit (.record kind) (.object (before ++ (name, value) :: after))
        (.object (before ++ (name, other) :: after))
  /-- A record may also be written as the list of its fields. -/
  | element {kind : RecordKind} {name : String} {content : Content} {value other : Json}
      (before after : List Json) (hfield : kind.fields[before.length]? = some (name, content))
      (hvalue : Edit content value other) :
      Edit (.record kind) (.array (before ++ value :: after)) (.array (before ++ other :: after))
  | item {kind : RecordKind} {value other : Json} (before after : List Json)
      (hvalue : Edit (.record kind) value other) :
      Edit (.list kind) (.array (before ++ value :: after)) (.array (before ++ other :: after))
  | entry {kind : RecordKind} {value other : Json} (before after : List (String × Json))
      (key : String) (hvalue : Edit (.record kind) value other) :
      Edit (.map kind) (.object (before ++ (key, value) :: after))
        (.object (before ++ (key, other) :: after))
  | additional {value other : Json} (hvalue : Edit (.record .schema) value other) :
      Edit .additional value other

namespace Edit

variable {content : Content} {json other : Json}

/-- Only lists and objects are edited, and they stay what they are. -/
theorem isContainer (hedit : Edit content json other) : json.IsContainer ∧ other.IsContainer := by
  induction hedit with
  | insert => exact ⟨trivial, trivial⟩
  | reorder => exact ⟨trivial, trivial⟩
  | member => exact ⟨trivial, trivial⟩
  | element => exact ⟨trivial, trivial⟩
  | item => exact ⟨trivial, trivial⟩
  | entry => exact ⟨trivial, trivial⟩
  | additional _ ih => exact ih

/-- An edit takes nothing away. -/
theorem nesting_le (hedit : Edit content json other) : json.nesting ≤ other.nesting := by
  induction hedit with
  | insert before after _ value =>
      simp only [nesting, nestingOfMembers_append, nestingOfMembers]
      omega
  | reorder hperm => exact Nat.le_of_eq (congrArg Nat.succ (nestingOfMembers_perm hperm))
  | member before after _ _ ih =>
      simp only [nesting, nestingOfMembers_append, nestingOfMembers]
      omega
  | element before after _ _ ih =>
      simp only [nesting, nestingOfItems_append, nestingOfItems]
      omega
  | item before after _ ih =>
      simp only [nesting, nestingOfItems_append, nestingOfItems]
      omega
  | entry before after _ _ ih =>
      simp only [nesting, nestingOfMembers_append, nestingOfMembers]
      omega
  | additional _ ih => exact ih

end Edit

end ClientPlan.OpenApi

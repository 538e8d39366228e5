import ClientPlan.Proofs.OpenApi.Overlooked

/-! # The order of maps

The members of an object that is read as a map keep their order. Such an object may stand at any
place inside a value; the places are named in the same way in the value and in what is read from it.
-/

namespace ClientPlan.OpenApi

open Json Source

/-! ## Places -/

/-- A step into a value. -/
inductive Step where
  /-- To the value of a field of a record. -/
  | field (name : String)
  /-- To an item of a list. -/
  | item (place : Nat)
  /-- To the value of a key of a map. -/
  | entry (key : String)
  /-- To the schema of additional values. -/
  | additional
  deriving DecidableEq, Repr

/-- The object at a place, which is read as a map of records of a kind. Of two members with one key
the last counts. -/
inductive MapAt : Content → Json → List Step → RecordKind → List (String × Json) → Prop where
  | here {kind : RecordKind} (members : List (String × Json)) :
      MapAt (.map kind) (.object members) [] kind members
  | field {kind target : RecordKind} {name : String} {content : Content} {json value : Json}
      {places : List Step} {members : List (String × Json)}
      (hfield : (name, content) ∈ kind.fields) (hvalue : (name, value) ∈ named kind.names json)
      (hrest : MapAt content value places target members) :
      MapAt (.record kind) json (.field name :: places) target members
  | item {kind target : RecordKind} {value : Json} {places : List Step}
      {members : List (String × Json)} (before after : List Json)
      (hrest : MapAt (.record kind) value places target members) :
      MapAt (.list kind) (.array (before ++ value :: after)) (.item before.length :: places) target
        members
  | entry {kind target : RecordKind} {key : String} {value : Json} {places : List Step}
      {members : List (String × Json)} (before after : List (String × Json))
      (hlast : key ∉ after.map Prod.fst)
      (hrest : MapAt (.record kind) value places target members) :
      MapAt (.map kind) (.object (before ++ (key, value) :: after)) (.entry key :: places) target
        members
  | additional {target : RecordKind} {value : Json} {places : List Step}
      {members : List (String × Json)}
      (hrest : MapAt (.record .schema) value places target members) :
      MapAt .additional value (.additional :: places) target members

/-- Maps stand in lists and objects only. -/
theorem MapAt.isContainer {content : Content} {json : Json} {places : List Step} {kind : RecordKind}
    {members : List (String × Json)} (hmap : MapAt content json places kind members) :
    json.IsContainer := by
  induction hmap with
  | here => trivial
  | @field _ _ _ _ json _ _ _ _ hvalue _ _ =>
      cases json with
      | array items => trivial
      | object members => trivial
      | _ => cases hvalue
  | item => trivial
  | entry => trivial
  | additional _ ih => exact ih

/-! ## Places in what is read -/

/-- The type of the records of a kind. -/
abbrev RecordKind.Record : RecordKind → Type
  | document => Document
  | components => Components
  | pathItem => PathItem
  | operation => Operation
  | parameter => Parameter
  | requestBody => RequestBody
  | response => Response
  | mediaType => MediaType
  | schema => Schema

/-- The type of what is read. -/
abbrev Content.Value : Content → Type
  | plain => Unit
  | record kind => kind.Record
  | list kind => List kind.Record
  | map kind => OrderedMap kind.Record
  | additional => Additional Schema

/-- A value with what it was read as. -/
abbrev Part : Type :=
  (content : Content) × content.Value

/-- A value that may be absent. -/
def partOf (content : Content) (value : Option content.Value) : Option Part :=
  value.map (Sigma.mk content)

/-- The value of the field with the given name, if it holds records. -/
def RecordKind.part? : (kind : RecordKind) → kind.Record → String → Option Part
  | document, record, "paths" => some ⟨.map pathItem, record.paths⟩
  | document, record, "components" => partOf (.record components) record.components
  | components, record, "schemas" => partOf (.map schema) record.schemas
  | pathItem, record, "get" => partOf (.record operation) record.get
  | pathItem, record, "put" => partOf (.record operation) record.put
  | pathItem, record, "post" => partOf (.record operation) record.post
  | pathItem, record, "delete" => partOf (.record operation) record.delete
  | pathItem, record, "options" => partOf (.record operation) record.options
  | pathItem, record, "head" => partOf (.record operation) record.head
  | pathItem, record, "patch" => partOf (.record operation) record.patch
  | pathItem, record, "trace" => partOf (.record operation) record.trace
  | pathItem, record, "parameters" => partOf (.list parameter) record.parameters
  | operation, record, "parameters" => partOf (.list parameter) record.parameters
  | operation, record, "requestBody" => partOf (.record requestBody) record.requestBody
  | operation, record, "responses" => some ⟨.map response, record.responses⟩
  | parameter, record, "schema" => partOf (.record schema) record.schema
  | requestBody, record, "content" => partOf (.map mediaType) record.content
  | response, record, "content" => partOf (.map mediaType) record.content
  | mediaType, record, "schema" => partOf (.record schema) record.schema
  | schema, record, "properties" => partOf (.map schema) record.properties
  | schema, record, "items" => partOf (.record schema) record.items
  | schema, record, "additionalProperties" => partOf .additional record.additionalProperties
  | schema, record, "allOf" => partOf (.list schema) record.allOf
  | schema, record, "anyOf" => partOf (.list schema) record.anyOf
  | schema, record, "oneOf" => partOf (.list schema) record.oneOf
  | _, _, _ => none

/-- The value that a step leads to. -/
def Part.step? : Part → Step → Option Part
  | ⟨.record kind, record⟩, .field name => kind.part? record name
  | ⟨.list kind, records⟩, .item place => partOf (.record kind) records[place]?
  | ⟨.map kind, map⟩, .entry key => partOf (.record kind) (OrderedMap.find? map key)
  | ⟨.additional, .each schema⟩, .additional => some ⟨.record .schema, schema⟩
  | _, _ => none

/-- The keys of the map at a place, in order. -/
def keysAt? : Part → List Step → Option (List String)
  | ⟨.map _, map⟩, [] => some (OrderedMap.keys map)
  | _, [] => none
  | part, step :: places =>
    match part.step? step with
    | some next => keysAt? next places
    | none => none

theorem keysAt?_cons {part next : Part} {step : Step} (hstep : part.step? step = some next)
    (places : List Step) : keysAt? part (step :: places) = keysAt? next places := by
  obtain ⟨content, value⟩ := part
  cases content <;> simp [keysAt?, hstep]

/-! ## Readers -/

/-- The reader keeps the order of maps: whatever is read as a map has the keys of its members, in
the order in which they are first written. -/
def Keeps (content : Content) (read : Node → Except Problem content.Value) : Prop :=
  ∀ ⦃json value⦄, read (.ofJson json) = .ok value →
    ∀ ⦃places kind members⦄, MapAt content json places kind members →
      keysAt? ⟨content, value⟩ places = some (members.map Prod.fst).eraseDups

namespace Keeps

variable {limit : Nat} {kind : RecordKind} {read : Node → Except Problem kind.Record}

theorem list (hread : Keeps (.record kind) read) :
    Keeps (.list kind) (readList {} limit read) := by
  intro json values hjson places target members hmap
  cases hmap with
  | item before after hrest =>
      obtain ⟨_, items, hitems, hvalues⟩ := readList_eq_ok_iff.mp hjson
      obtain rfl := Json.array.inj hitems
      obtain ⟨earlier, value, later, rfl, hearlier, hvalue, _⟩ := exists_split_of_forall₂ hvalues
      have hstep : Part.step? ⟨.list kind, earlier ++ value :: later⟩ (.item before.length) =
          some ⟨.record kind, value⟩ := by
        simp [Part.step?, partOf, hearlier.length_eq]
      rw [keysAt?_cons hstep]
      exact hread hvalue hrest

theorem mapping (hread : Keeps (.record kind) read) :
    Keeps (.map kind) (readMap {} limit read) := by
  intro json map hjson places target members hmap
  cases hmap with
  | here => exact congrArg some (keys_of_readMap hjson)
  | @entry _ _ key _ _ _ before after hlast hrest =>
      obtain ⟨_, members, hmembers, entries, hentries, rfl⟩ := readMap_eq_ok_iff.mp hjson
      obtain rfl := Json.object.inj hmembers
      obtain ⟨earlier, ⟨_, value⟩, later, rfl, _, ⟨rfl, hvalue⟩, hlater⟩ :=
        exists_split_of_forall₂ hentries
      have hkeys : later.map Prod.fst = after.map Prod.fst :=
        map_eq_map_of_forall₂ hlater fun _ _ _ hentry => hentry.1.symm
      rw [← hkeys] at hlast
      have hfound : (OrderedMap.insertAll [] (earlier ++ (key, value) :: later)).find? key =
          some value := OrderedMap.find?_insertAll_of_last hlast
      have hstep : Part.step? ⟨.map kind, OrderedMap.insertAll [] _⟩ (.entry key) =
          some ⟨.record kind, value⟩ := congrArg (partOf (.record kind)) hfound
      rw [keysAt?_cons hstep]
      exact hread hvalue hrest

theorem additional {read : Node → Except Problem Schema}
    (hread : Keeps (.record .schema) read) :
    Keeps .additional (readAdditional {} limit read) := by
  intro json value hjson places target members hmap
  cases hmap with
  | additional hrest =>
      obtain ⟨_, schema, hschema, rfl⟩ :=
        (readAdditional_eq_ok_iff hrest.isContainer).mp hjson
      exact hread hschema hrest

end Keeps

/-- The field of a record keeps the order of maps: wherever its value is put into a record, it is
found again under the name of the field. -/
def KeepsField (kind : RecordKind) (name : String) (content : Content)
    (field : Source.Field kind.Record) : Prop :=
  ∀ ⦃json set⦄, field.read (.ofJson json) = .ok set →
    ∀ ⦃places target members⦄, MapAt content json places target members →
      ∀ record, keysAt? ⟨.record kind, set record⟩ (.field name :: places) =
        some (members.map Prod.fst).eraseDups

/-- Of the members that name fields any may be read last. -/
theorem Keeps.record {kind : RecordKind} {limit within : Nat}
    {fields : List (Source.Field kind.Record)} (hfields : Overlooking within kind fields)
    (hkeeps : List.Forall₂ (fun entry field =>
      entry.1 = field.name ∧ KeepsField kind entry.1 entry.2 field) kind.fields fields)
    (start : kind.Record) : Keeps (.record kind) (readRecord {} limit fields start) := by
  intro json record hjson places target members hmap
  have hnodup := hfields.nodup_fieldNames
  obtain ⟨⟨_, hcomplete⟩, sets, hsets, rfl⟩ := (readRecord_eq_ok_iff hnodup).mp hjson
  cases hmap with
  | @field _ _ name content _ value places _ hentry hvalue hrest =>
      rw [← hfields.fieldNames_eq] at hvalue
      obtain ⟨before, after, hnamed⟩ := List.append_of_mem hvalue
      have hperm : (named (fieldNames fields) json).Perm (before ++ after ++ [(name, value)]) := by
        rw [hnamed, List.append_assoc]
        exact (List.perm_append_singleton _ _).symm.append_left before
      obtain ⟨next, hnext, hsame⟩ :=
        hfields.exists_sets_of_perm (hcomplete.nodup_givenNames hnodup) hperm hsets start
      obtain ⟨earlier, set, later, rfl, _, hset, hlater⟩ := exists_split_of_forall₂ hnext
      obtain rfl := List.forall₂_nil_left_iff.mp hlater
      obtain ⟨field, hkeeps, _, hread⟩ := exists_field_of_sets hkeeps hnodup hentry hset
      have hlast : applyAll (earlier ++ [set]) start = set (applyAll earlier start) := by
        simp [applyAll]
      rw [← hsame, hlast]
      exact hkeeps hread hrest _

end ClientPlan.OpenApi

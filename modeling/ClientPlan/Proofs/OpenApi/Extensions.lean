import ClientPlan.Json.Printer
import ClientPlan.Plan.Basic
import ClientPlan.Proofs.OpenApi.MapOrder

/-! # Extensions and the order of members

Extensions of a document, and the order in which the members of its records are written, do not
show in what is read from it, whereas the order of its maps does. This is so for every record of a
document, the readers of the larger ones using those of the smaller ones.
-/

namespace ClientPlan.OpenApi

open Json Source

/-! ## Faithful readers -/

/-- The reader overlooks edits in records and keeps the order of maps. -/
structure Faithful (limit : Nat) (content : Content) (read : Node → Except Problem content.Value) :
    Prop where
  overlooks : Overlooks limit content read
  keeps : Keeps content read

/-- A field under its name, with a reader that overlooks edits in records and keeps the order of
maps. -/
structure FaithfulField (limit : Nat) (kind : RecordKind) (entry : String × Content)
    (field : Source.Field kind.Record) : Prop where
  name_eq : entry.1 = field.name
  overlooks : Overlooks limit entry.2 field.read
  keeps : KeepsField kind entry.1 entry.2 field

section

variable {limit : Nat} {kind : RecordKind}

theorem Faithful.list {read : Node → Except Problem kind.Record}
    (hread : Faithful (limit - 1) (.record kind) read) :
    Faithful limit (.list kind) (readList {} limit read) :=
  ⟨hread.overlooks.list, hread.keeps.list⟩

theorem Faithful.mapping {read : Node → Except Problem kind.Record}
    (hread : Faithful (limit - 1) (.record kind) read) :
    Faithful limit (.map kind) (readMap {} limit read) :=
  ⟨hread.overlooks.mapping, hread.keeps.mapping⟩

theorem Faithful.additional {read : Node → Except Problem Schema}
    (hread : Faithful limit (.record .schema) read) :
    Faithful limit .additional (readAdditional {} limit read) :=
  ⟨hread.overlooks.additional, hread.keeps.additional⟩

namespace FaithfulField

variable {name : String} {content : Content}

/-- A field that holds no records. -/
theorem plain {field : Source.Field kind.Record} (hname : name = field.name) :
    FaithfulField limit kind (name, .plain) field :=
  ⟨hname, .plain, fun _ _ _ _ _ _ hmap => nomatch hmap⟩

theorem defaulted {read : Node → Except Problem content.Value}
    {set : content.Value → kind.Record → kind.Record} (hread : Faithful limit content read)
    (hpart : ∀ value record, kind.part? (set value record) name = some ⟨content, value⟩) :
    FaithfulField limit kind (name, content) (defaultedField name read set) where
  name_eq := rfl
  overlooks := hread.overlooks.map set
  keeps := by
    intro json change hchange places target members hmap record
    obtain ⟨value, hvalue, rfl⟩ := map_eq_ok_iff.mp hchange
    have hstep : Part.step? ⟨.record kind, set value record⟩ (.field name) =
        some ⟨content, value⟩ := hpart value record
    rw [keysAt?_cons hstep]
    exact hread.keeps hvalue hmap

theorem option {read : Node → Except Problem content.Value}
    {set : Option content.Value → kind.Record → kind.Record} (hread : Faithful limit content read)
    (hpart : ∀ value record, kind.part? (set (some value) record) name = some ⟨content, value⟩) :
    FaithfulField limit kind (name, content) (.option {} name read set) where
  name_eq := rfl
  overlooks := hread.overlooks.option.map set
  keeps := by
    intro json change hchange places target members hmap record
    obtain ⟨result, hresult, rfl⟩ := map_eq_ok_iff.mp hchange
    rw [readOption_of_isContainer hmap.isContainer] at hresult
    obtain ⟨value, hvalue, rfl⟩ := map_eq_ok_iff.mp hresult
    have hstep : Part.step? ⟨.record kind, set (some value) record⟩ (.field name) =
        some ⟨content, value⟩ := hpart value record
    rw [keysAt?_cons hstep]
    exact hread.keeps hvalue hmap

end FaithfulField

/-- The fields are those of the record, and they change different parts of it. -/
structure FaithfulFields (limit : Nat) (kind : RecordKind)
    (fields : List (Source.Field kind.Record)) : Prop where
  reads : List.Forall₂ (FaithfulField limit kind) kind.fields fields
  commute : fields.Pairwise Commute

theorem FaithfulFields.overlooking {fields : List (Source.Field kind.Record)}
    (hfields : FaithfulFields limit kind fields) : Overlooking limit kind fields :=
  ⟨hfields.reads.imp fun _ _ hfield => ⟨hfield.name_eq, hfield.overlooks⟩, hfields.commute⟩

theorem Faithful.record {fields : List (Source.Field kind.Record)}
    (hfields : FaithfulFields (limit - 1) kind fields) (start : kind.Record) :
    Faithful limit (.record kind) (readRecord {} limit fields start) where
  overlooks := .record hfields.overlooking start
  keeps := .record hfields.overlooking
    (hfields.reads.imp fun _ _ hfield => ⟨hfield.name_eq, hfield.keeps⟩) start

end

/-! ## The records of a document -/

theorem commute_mk {ρ α β : Type} {name other : String} {presence presence' : Presence}
    {read : Node → Except Problem α} {readOther : Node → Except Problem β} {set : α → ρ → ρ}
    {next : β → ρ → ρ} (hset : ∀ a b record, set a (next b record) = next b (set a record)) :
    Commute ⟨name, presence, fun node => (read node).map set⟩
      ⟨other, presence', fun node => (readOther node).map next⟩ := by
  intro node node' change change' hchange hchange' record
  obtain ⟨a, _, rfl⟩ := map_eq_ok_iff.mp hchange
  obtain ⟨b, _, rfl⟩ := map_eq_ok_iff.mp hchange'
  exact hset a b record

theorem faithful_schemaFields {limit : Nat}
    {read readWithin : Context → Node → Except Problem Schema}
    (hread : Faithful limit (.record .schema) (read {}))
    (hwithin : Faithful (limit - 1) (.record .schema) (readWithin {})) :
    FaithfulFields limit .schema (schemaFields {} limit read readWithin) where
  reads :=
    .cons (.plain rfl) <| .cons (.plain rfl) <|
    .cons (.option hwithin.mapping fun _ _ => rfl) <| .cons (.plain rfl) <|
    .cons (.option hread fun _ _ => rfl) <| .cons (.plain rfl) <|
    .cons (.option hread.additional fun _ _ => rfl) <|
    .cons (.option hwithin.list fun _ _ => rfl) <|
    .cons (.option hwithin.list fun _ _ => rfl) <|
    .cons (.option hwithin.list fun _ _ => rfl) <|
    .cons (.plain rfl) <| .cons (.plain rfl) .nil
  commute := by
    simp only [schemaFields, Source.Field.option, List.pairwise_cons, List.mem_cons,
      forall_eq_or_imp, List.not_mem_nil, false_imp_iff, implies_true, List.Pairwise.nil, and_true]
    repeat' apply And.intro
    all_goals exact commute_mk fun _ _ _ => rfl

theorem faithful_refuseNesting {limit : Nat} :
    Faithful limit (.record .schema) (refuseNesting {}) where
  overlooks := fun _ _ _ _ _ hread => nomatch hread
  keeps := fun _ _ hread => nomatch hread

/-- Schemas are read inside schemas, each with less depth left. -/
theorem faithful_readSchema : ∀ limit, Faithful limit (.record .schema) (readSchema limit {})
  | 0 => .record (faithful_schemaFields faithful_refuseNesting faithful_refuseNesting) _
  | 1 => .record (faithful_schemaFields (faithful_readSchema 0) faithful_refuseNesting) _
  | depth + 2 =>
    have hwithin : Faithful (depth + 1 - 1) (.record .schema) (readSchema depth {}) :=
      faithful_readSchema depth
    .record (faithful_schemaFields (faithful_readSchema (depth + 1)) hwithin) _

section

variable (limit : Nat)

theorem faithful_readParameter : Faithful limit (.record .parameter) (readParameter {} limit) := by
  have hschema := faithful_readSchema (limit - 1)
  refine .record ⟨?_, ?_⟩ _
  · exact .cons (.plain rfl) <| .cons (.plain rfl) <| .cons (.plain rfl) <|
      .cons (.option hschema fun _ _ => rfl) .nil
  · simp only [requiredField, defaultedField, Source.Field.option, List.pairwise_cons,
      List.mem_cons, forall_eq_or_imp, List.not_mem_nil, false_imp_iff, implies_true,
      List.Pairwise.nil, and_true]
    repeat' apply And.intro
    all_goals exact commute_mk fun _ _ _ => rfl

theorem faithful_readParameters : Faithful limit (.list .parameter) (readParameters {} limit) :=
  (faithful_readParameter (limit - 1)).list

theorem faithful_readMediaType : Faithful limit (.record .mediaType) (readMediaType {} limit) := by
  have hschema := faithful_readSchema (limit - 1)
  refine .record ⟨?_, List.pairwise_singleton _ _⟩ _
  exact .cons (.option hschema fun _ _ => rfl) .nil

theorem faithful_readContent : Faithful limit (.map .mediaType) (readContent {} limit) :=
  (faithful_readMediaType (limit - 1)).mapping

theorem faithful_readRequestBody :
    Faithful limit (.record .requestBody) (readRequestBody {} limit) := by
  have hcontent := faithful_readContent (limit - 1)
  refine .record ⟨?_, ?_⟩ _
  · exact .cons (.plain rfl) <| .cons (.option hcontent fun _ _ => rfl) .nil
  · exact List.pairwise_pair.mpr (commute_mk fun _ _ _ => rfl)

theorem faithful_readResponse : Faithful limit (.record .response) (readResponse {} limit) := by
  have hcontent := faithful_readContent (limit - 1)
  refine .record ⟨?_, ?_⟩ _
  · exact .cons (.plain rfl) <| .cons (.option hcontent fun _ _ => rfl) .nil
  · exact List.pairwise_pair.mpr (commute_mk fun _ _ _ => rfl)

theorem faithful_readOperation : Faithful limit (.record .operation) (readOperation {} limit) := by
  have hparameters := faithful_readParameters (limit - 1)
  have hbody := faithful_readRequestBody (limit - 1)
  have hresponses := (faithful_readResponse (limit - 1 - 1)).mapping
  refine .record ⟨?_, ?_⟩ _
  · exact .cons (.plain rfl) <| .cons (.plain rfl) <| .cons (.plain rfl) <|
      .cons (.option hparameters fun _ _ => rfl) <| .cons (.option hbody fun _ _ => rfl) <|
      .cons (.defaulted hresponses fun _ _ => rfl) <| .cons (.plain rfl) .nil
  · simp only [defaultedField, Source.Field.option, List.pairwise_cons, List.mem_cons,
      forall_eq_or_imp, List.not_mem_nil, false_imp_iff, implies_true, List.Pairwise.nil, and_true]
    repeat' apply And.intro
    all_goals exact commute_mk fun _ _ _ => rfl

theorem faithful_readPathItem : Faithful limit (.record .pathItem) (readPathItem {} limit) := by
  have hoperation := faithful_readOperation (limit - 1)
  have hparameters := faithful_readParameters (limit - 1)
  refine .record ⟨?_, ?_⟩ _
  · exact .cons (.option hoperation fun _ _ => rfl) <| .cons (.option hoperation fun _ _ => rfl) <|
      .cons (.option hoperation fun _ _ => rfl) <| .cons (.option hoperation fun _ _ => rfl) <|
      .cons (.option hoperation fun _ _ => rfl) <| .cons (.option hoperation fun _ _ => rfl) <|
      .cons (.option hoperation fun _ _ => rfl) <| .cons (.option hoperation fun _ _ => rfl) <|
      .cons (.option hparameters fun _ _ => rfl) .nil
  · simp only [Source.Field.option, List.pairwise_cons, List.mem_cons,
      forall_eq_or_imp, List.not_mem_nil, false_imp_iff, implies_true, List.Pairwise.nil, and_true]
    repeat' apply And.intro
    all_goals exact commute_mk fun _ _ _ => rfl

theorem faithful_readComponents :
    Faithful limit (.record .components) (readComponents {} limit) := by
  have hschemas := (faithful_readSchema (limit - 1 - 1)).mapping
  refine .record ⟨?_, List.pairwise_singleton _ _⟩ _
  exact .cons (.option hschemas fun _ _ => rfl) .nil

theorem faithful_readDocument : Faithful limit (.record .document) (readDocument {} limit) := by
  have hpaths := (faithful_readPathItem (limit - 1 - 1)).mapping
  have hcomponents := faithful_readComponents (limit - 1)
  refine .record ⟨?_, ?_⟩ _
  · exact .cons (.defaulted hpaths fun _ _ => rfl) <|
      .cons (.option hcomponents fun _ _ => rfl) .nil
  · exact List.pairwise_pair.mpr (commute_mk fun _ _ _ => rfl)

end

/-! ## Documents -/

theorem Overlooks.of_edits {α : Type} {limit : Nat} {content : Content}
    {read : Node → Except Problem α} (hread : Overlooks limit content read) {json edited : Json}
    (hedits : Relation.ReflTransGen (Edit content) json edited) (hedited : edited.nesting ≤ limit)
    {value : α} (hjson : read (.ofJson json) = .ok value) : read (.ofJson edited) = .ok value := by
  induction hedits with
  | refl => exact hjson
  | tail _ hedit ih =>
      -- Edits only add nesting, so the limit holds before the last one as well.
      exact hread hedit hedited (ih (Nat.le_trans hedit.nesting_le hedited))

/-- The text holds the value and nothing else. -/
def Holds (text : String) (json : Json) : Prop :=
  Json.read text.toList = (.ofJson json, true)

theorem Holds.ofJson_eq_ok_iff {text : String} {json : Json} (htext : Holds text json)
    {document : Document} :
    Document.ofJson text = .ok document ↔
      readDocument {} jsonDepth (.ofJson json) = .ok document := by
  have hrun : Document.ofJson text =
      (readDocument {} jsonDepth (.ofJson json) >>= fun document => .ok document).mapError
        DocumentError.json := by
    rw [Document.ofJson, readJsonText, htext]
    rfl
  rw [hrun]
  cases readDocument {} jsonDepth (.ofJson json) <;> simp [bind, Except.bind, Except.mapError]

/-- Members that are no fields, and the order of the members of records, make no difference to a
document and to its plan, however many records are edited and at whatever depth. The keys of its
maps stand in the order in which they are written. -/
theorem document_of_edits {text other : String} {json edited : Json} (htext : Holds text json)
    (hother : Holds other edited)
    (hedits : Relation.ReflTransGen (Edit (.record .document)) json edited)
    (hedited : edited.nesting ≤ jsonDepth) {document : Document}
    (hdocument : Document.ofJson text = .ok document) :
    Document.ofJson other = .ok document ∧
      (∀ flavour, (Document.ofJson other).map (Plan.ofDocument flavour) =
        (Document.ofJson text).map (Plan.ofDocument flavour)) ∧
      ∀ ⦃places kind members⦄, MapAt (.record .document) json places kind members →
        keysAt? ⟨.record .document, document⟩ places = some (members.map Prod.fst).eraseDups := by
  have hread := htext.ofJson_eq_ok_iff.mp hdocument
  have hsame : Document.ofJson other = .ok document :=
    hother.ofJson_eq_ok_iff.mpr
      ((faithful_readDocument jsonDepth).overlooks.of_edits hedits hedited hread)
  refine ⟨hsame, fun flavour => by rw [hsame, hdocument], ?_⟩
  exact fun _ _ _ hmap => (faithful_readDocument jsonDepth).keeps hread hmap

/-- Two components, with what is said of additional values in one of them. -/
def toySchemas (additional : Json) : List (String × Json) :=
  [("Toy", .object [("additionalProperties", additional)]), ("Box", .object [])]

/-- A document that allows strings as additional values. -/
def toyBox : Json :=
  .object [("components", .object [("schemas",
    .object (toySchemas (.object [("type", .string "string")])))]), ("paths", .object [])]

/-- The same document with a note on the additional values and its members in another order. -/
def notedToyBox : Json :=
  .object [("paths", .object []), ("components", .object [("schemas",
    .object (toySchemas (.object [("type", .string "string"), ("x-note", .null)])))])]

theorem edits_toyBox : Relation.ReflTransGen (Edit (.record .document)) toyBox notedToyBox := by
  have hnote : Edit (.record .schema) (.object [("type", .string "string")])
      (.object [("type", .string "string"), ("x-note", .null)]) :=
    .insert [("type", .string "string")] [] (by decide) .null
  have hadditional : ("additionalProperties", .additional) ∈ RecordKind.schema.fields := by decide
  have hschemas : ("schemas", .map .schema) ∈ RecordKind.components.fields := by decide
  have hcomponents : ("components", .record .components) ∈ RecordKind.document.fields := by decide
  have htoy := Edit.member [] [] hadditional (.additional hnote)
  have hbox := Edit.member [] [] hschemas (.entry [] [("Box", .object [])] "Toy" htoy)
  have hdocument := Edit.member [] [("paths", .object [])] hcomponents hbox
  exact (Relation.ReflTransGen.single hdocument).tail (.reorder (List.Perm.swap _ _ _))

theorem mapAt_toyBox :
    MapAt (.record .document) toyBox [.field "components", .field "schemas"] .schema
      (toySchemas (.object [("type", .string "string")])) := by
  have hschemas : ("schemas", .map .schema) ∈ RecordKind.components.fields := by decide
  have hcomponents : ("components", .record .components) ∈ RecordKind.document.fields := by decide
  have hmap : MapAt (.record .components) (.object [("schemas", .object (toySchemas _))])
      [.field "schemas"] .schema (toySchemas (.object [("type", .string "string")])) :=
    .field hschemas List.mem_cons_self (.here _)
  exact .field hcomponents List.mem_cons_self hmap

theorem document_of_edits_toyBox :
    ∃ document, Document.ofJson toyBox.compact = .ok document ∧
      Document.ofJson notedToyBox.compact = .ok document ∧
      keysAt? ⟨.record .document, document⟩ [.field "components", .field "schemas"] =
        some ["Toy", "Box"] := by
  have htext : Holds toyBox.compact toyBox := by cbv
  have hother : Holds notedToyBox.compact notedToyBox := by cbv
  have hnesting : notedToyBox.nesting ≤ jsonDepth := by decide +kernel
  have hread : (readDocument {} jsonDepth (.ofJson toyBox)).toOption.isSome := by decide +kernel
  cases hvalue : readDocument {} jsonDepth (.ofJson toyBox) with
  | error problem => simp [hvalue, Except.toOption] at hread
  | ok document =>
      have hdocument := htext.ofJson_eq_ok_iff.mpr hvalue
      obtain ⟨hsame, _, hkeys⟩ :=
        document_of_edits htext hother edits_toyBox hnesting hdocument
      exact ⟨document, hdocument, hsame, hkeys mapAt_toyBox⟩

end ClientPlan.OpenApi

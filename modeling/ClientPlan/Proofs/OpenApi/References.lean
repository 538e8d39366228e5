import ClientPlan.Proofs.OpenApi.Resolution
import ClientPlan.Proofs.OpenApi.Unions
import ClientPlan.Proofs.Outline.Imports

/-! # The references of a document

Every component name that a document refers to, wherever it does. The component that a schema stands
for is among the references of the schema, so that a schema is typed as a number only if it is one,
or refers to a component of that name.
-/

namespace ClientPlan.OpenApi

open Outline (references)

/-! ## Where a document refers to components -/

/-- The schemas of parameters. -/
def parameterSchemas (params : Option (List Parameter)) : List Schema :=
  (params.getD []).filterMap Parameter.schema

/-- The schemas of payloads. -/
def contentSchemas (content : Option (OrderedMap MediaType)) : List Schema :=
  (content.getD []).filterMap fun entry => entry.2.schema

def Operation.schemas (op : Operation) : List Schema :=
  parameterSchemas op.parameters ++ contentSchemas (op.requestBody.bind RequestBody.content) ++
    op.responses.flatMap fun response => contentSchemas response.2.content

def PathItem.schemas (item : PathItem) : List Schema :=
  parameterSchemas item.parameters ++ item.operations.flatMap fun found => found.2.schemas

/-- The schemas that a document is written with, in its paths and as its components. -/
def Document.writtenSchemas (document : Document) : List Schema :=
  document.paths.flatMap (fun entry => entry.2.schemas) ++ document.schemas.map Prod.snd

/-- The component names that a document refers to, at any place. -/
def Document.references (document : Document) : List String :=
  document.writtenSchemas.flatMap Outline.references

/-! ## The component that a schema stands for -/

mutual

theorem mem_references_of_refName? : ∀ {schema : Schema} {name : String},
    schema.refName? = some name → name ∈ references schema
  | ⟨_, reference, _, _, _, _, _, allOf, anyOf, oneOf, _, _⟩, name, hname => by
      rw [Schema.refName?_eq] at hname
      simp only [Option.or_eq_some_iff] at hname
      rw [Outline.references_eq]
      simp only [List.mem_append]
      rcases hname with htarget | ⟨_, hany | ⟨_, hone | ⟨_, hall⟩⟩⟩
      · simp [htarget]
      · simp [mem_of_firstOptionName? hany]
      · simp [mem_of_firstOptionName? hone]
      · simp [mem_of_firstOptionName? hall]

theorem mem_of_firstOptionName? : ∀ {members : Option (List Schema)} {name : String},
    Schema.firstOptionName? members = some name → name ∈ Outline.optionalMemberReferences members
  | some _, _, hname => mem_of_firstName? hname

theorem mem_of_firstName? : ∀ {members : List Schema} {name : String},
    Schema.firstName? members = some name → name ∈ Outline.memberReferences members
  | member :: rest, name, hname => by
      rw [Outline.memberReferences, List.mem_append]
      rw [Schema.firstName?] at hname
      split at hname
      next found hfound =>
        obtain rfl := Option.some.inj hname
        exact .inl (mem_references_of_refName? hfound)
      next => exact .inr (mem_of_firstName? hname)

end

namespace Schema

theorem plainTypeName_eq_number {primary format item value component : Option String}
    (hname : plainTypeName primary format item value component = "number") :
    primary = some "integer" ∨ primary = some "number" ∨ component = some "number" := by
  unfold plainTypeName at hname
  split at hname
  case h_1 => exact .inl rfl
  case h_2 => exact .inr (.inl rfl)
  case h_3 => simp at hname
  case h_4 => split at hname <;> simp at hname
  case h_5 | h_6 =>
    have hhead := congrArg (fun text => text.toList.head?) hname
    simp at hhead
  case h_7 =>
    cases component with
    | none => simp at hname
    | some name => exact .inr (.inr (congrArg some hname))

/-- A schema is typed as a number for its primary type, or for a component of that name. -/
theorem typeName_eq_number {schema : Schema} (hname : schema.typeName = "number") :
    schema.primaryType? = some "integer" ∨ schema.primaryType? = some "number" ∨
      "number" ∈ references schema := by
  rw [typeName_eq] at hname
  cases htarget : schema.target? with
  | some name =>
      rw [htarget, Option.getD_some] at hname
      exact .inr (.inr (Outline.mem_references_of_target? (hname ▸ htarget)))
  | none =>
      rw [htarget, Option.getD_none] at hname
      exact (plainTypeName_eq_number hname).imp_right (Or.imp_right mem_references_of_refName?)

end Schema

theorem Document.mem_schemas_of_leads {document : Document} {schema last : Schema}
    {names : List String} (hleads : document.Leads schema names last) :
    last = schema ∨ last ∈ document.schemas.map Prod.snd := by
  induction hleads with
  | here => exact .inl rfl
  | hop _ hfound _ ih =>
      refine .inr (ih.elim ?_ id)
      rintro rfl
      exact List.mem_map_of_mem (OrderedMap.mem_of_find?_eq_some hfound)

end ClientPlan.OpenApi

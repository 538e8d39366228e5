import Mathlib.Data.List.Basic
import ClientPlan.Proofs.Outline.Imports

/-! # Walking a schema

A walk meets a schema and then, one by one and with all that is inside them, the schemas right
inside it. The references of a schema are those of the schemas on the walk.
-/

namespace ClientPlan.OpenApi.Schema

/-- The schema of the additional values, if there is one. -/
def valueSchema? (schema : Schema) : Option Schema :=
  match schema.additionalProperties with
  | some (.each value) => some value
  | _ => none

/-- The schemas right inside a schema, in the order in which they are met. -/
def parts (schema : Schema) : List Schema :=
  (schema.properties.getD []).map Prod.snd ++ schema.allOf.getD [] ++ schema.anyOf.getD [] ++
    schema.oneOf.getD [] ++ schema.items.toList ++ schema.valueSchema?.toList

theorem sizeOf_lt_of_mem_getD {schema : Schema} {members : Option (List Schema)}
    (hmem : schema ∈ members.getD []) : sizeOf schema < sizeOf members := by
  cases members with
  | none => cases hmem
  | some members =>
      have hlt : sizeOf schema < sizeOf members := List.sizeOf_lt_of_mem hmem
      rw [Option.some.sizeOf_spec]
      omega

theorem sizeOf_lt_of_mem_properties {schema : Schema}
    {properties : Option (List (String × Schema))}
    (hmem : schema ∈ (properties.getD []).map Prod.snd) : sizeOf schema < sizeOf properties := by
  obtain ⟨⟨name, found⟩, hentry, rfl⟩ := List.mem_map.mp hmem
  cases properties with
  | none => cases hentry
  | some properties =>
      have hlt : sizeOf (name, found) < sizeOf properties := List.sizeOf_lt_of_mem hentry
      rw [Prod.mk.sizeOf_spec] at hlt
      rw [Option.some.sizeOf_spec]
      dsimp only
      omega

theorem sizeOf_lt_of_mem_parts {schema part : Schema} (hpart : part ∈ schema.parts) :
    sizeOf part < sizeOf schema := by
  obtain ⟨type, reference, properties, required, items, enumValues, additional, allOf, anyOf,
    oneOf, format, nullable⟩ := schema
  rw [Schema.mk.sizeOf_spec]
  simp only [parts, List.mem_append, Option.mem_toList] at hpart
  rcases hpart with ((((hproperty | hall) | hany) | hone) | hitem) | hvalue
  · have hlt := sizeOf_lt_of_mem_properties hproperty
    omega
  · have hlt := sizeOf_lt_of_mem_getD hall
    omega
  · have hlt := sizeOf_lt_of_mem_getD hany
    omega
  · have hlt := sizeOf_lt_of_mem_getD hone
    omega
  · obtain rfl : items = some part := hitem
    rw [Option.some.sizeOf_spec]
    omega
  · unfold valueSchema? at hvalue
    split at hvalue
    next value heq =>
      obtain rfl : additional = some (.each value) := heq
      obtain rfl : value = part := Option.some.inj hvalue
      rw [Option.some.sizeOf_spec, Additional.each.sizeOf_spec]
      omega
    next => cases hvalue

/-- A schema and all schemas inside it, each before those inside it. -/
def walk (schema : Schema) : List Schema :=
  schema :: schema.parts.attach.flatMap fun part => walk part.1
termination_by sizeOf schema
decreasing_by exact sizeOf_lt_of_mem_parts part.2

theorem walk_eq (schema : Schema) : schema.walk = schema :: schema.parts.flatMap walk := by
  rw [walk, List.flatMap_subtype (fun _ _ => rfl), List.unattach_attach]

end Schema

end ClientPlan.OpenApi

namespace ClientPlan.Outline

open OpenApi

/-! ## References on a walk -/

theorem propertyReferences_eq (properties : List (String × Schema)) :
    propertyReferences properties = (properties.map Prod.snd).flatMap references := by
  induction properties with
  | nil => rfl
  | cons entry rest ih => rw [propertyReferences, ih, List.map_cons, List.flatMap_cons]

theorem memberReferences_eq (members : List Schema) :
    memberReferences members = members.flatMap references := by
  induction members with
  | nil => rfl
  | cons member rest ih => rw [memberReferences, ih, List.flatMap_cons]

theorem references_eq_parts (schema : Schema) :
    references schema = schema.target?.toList ++ schema.parts.flatMap references := by
  have hproperties : optionalPropertyReferences schema.properties =
      ((schema.properties.getD []).map Prod.snd).flatMap references := by
    cases schema.properties with
    | none => rfl
    | some properties => exact propertyReferences_eq properties
  have hmembers : ∀ members : Option (List Schema),
      optionalMemberReferences members = (members.getD []).flatMap references := by
    rintro (_ | members)
    · rfl
    · exact memberReferences_eq members
  have hitems : itemReferences schema.items = schema.items.toList.flatMap references := by
    cases schema.items with
    | none => rfl
    | some item => exact (List.append_nil _).symm
  have hvalues : valueReferences schema.additionalProperties =
      schema.valueSchema?.toList.flatMap references := by
    unfold Schema.valueSchema?
    rcases schema.additionalProperties with _ | _ | value
    · rfl
    · rfl
    · exact (List.append_nil _).symm
  rw [references_eq, hproperties, hmembers, hmembers, hmembers, hitems, hvalues, Schema.parts]
  simp only [List.flatMap_append, List.append_assoc]

/-- The references of a schema are read off the schemas on the walk. -/
theorem references_eq_walk (schema : Schema) :
    references schema = schema.walk.filterMap Schema.target? := by
  have hparts : schema.parts.flatMap references =
      schema.parts.flatMap fun part => part.walk.filterMap Schema.target? :=
    List.flatMap_congr fun part hpart => references_eq_walk part
  rw [references_eq_parts, hparts, Schema.walk_eq, List.filterMap_cons, List.filterMap_flatMap]
  cases schema.target? <;> rfl
termination_by sizeOf schema
decreasing_by exact Schema.sizeOf_lt_of_mem_parts hpart

end ClientPlan.Outline

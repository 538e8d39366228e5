import Mathlib.Logic.Basic
import ClientPlan.OpenApi.TypeName

/-! # Unions

A union is written under one of two keywords. Primary types, the components that schemas stand for
and type names do not depend on the keyword; nullability does, because only members under `anyOf`
make a schema nullable.

A union of a schema and null keeps the primary type of the schema and the component that it stands
for. Its type name is made from these two alone, so that whatever else takes part in the type of
the schema is lost.
-/

namespace ClientPlan.OpenApi

/-- The keywords of a union. -/
inductive UnionKeyword where
  | anyOf
  | oneOf
  deriving DecidableEq, Repr

namespace Schema

/-- The schema with a union of the given members under one keyword, and none under the other. -/
def withUnion (schema : Schema) (members : List Schema) : UnionKeyword → Schema
  | .anyOf => { schema with anyOf := some members, oneOf := none }
  | .oneOf => { schema with anyOf := none, oneOf := some members }

/-- The schema of null. -/
def null : Schema :=
  { type := some (.single "null") }

/-! ## What is read off a schema, by its fields -/

theorem firstType?_eq_findSome? (members : List Schema) :
    firstType? members =
      members.findSome? fun member => member.primaryType?.filter (· ≠ "null") := by
  induction members with
  | nil => rfl
  | cons member rest ih =>
      rw [firstType?, List.findSome?_cons, ih]
      cases member.primaryType? with
      | none => rfl
      | some name => by_cases hnull : name = "null" <;> simp [Option.filter, hnull]

theorem firstName?_eq_findSome? (members : List Schema) :
    firstName? members = members.findSome? refName? := by
  induction members with
  | nil => rfl
  | cons member rest ih =>
      rw [firstName?, List.findSome?_cons, ih]
      cases member.refName? <;> rfl

theorem primaryType?_of_single {schema : Schema} {name : String}
    (htype : schema.type = some (.single name)) : schema.primaryType? = some name := by
  obtain ⟨_, _, _, _, _, _, _, _, _, _, _, _⟩ := schema
  obtain rfl := htype
  rfl

theorem primaryType?_of_multiple {schema : Schema} {names : List String}
    (htype : schema.type = some (.multiple names)) :
    schema.primaryType? = names.find? (· ≠ "null") := by
  obtain ⟨_, _, _, _, _, _, _, _, _, _, _, _⟩ := schema
  obtain rfl := htype
  rfl

theorem primaryType?_of_untyped {schema : Schema} (htype : schema.type = none) :
    schema.primaryType? =
      (firstOptionType? schema.anyOf).or (firstOptionType? schema.oneOf) := by
  obtain ⟨_, _, _, _, _, _, _, _, anyOf, _, _, _⟩ := schema
  obtain rfl := htype
  rw [primaryType?]
  cases firstOptionType? anyOf <;> rfl

theorem refName?_eq (schema : Schema) :
    schema.refName? =
      schema.target?.or ((firstOptionName? schema.anyOf).or
        ((firstOptionName? schema.oneOf).or (firstOptionName? schema.allOf))) := by
  obtain ⟨_, reference, _, _, _, _, _, _, anyOf, oneOf, _, _⟩ := schema
  cases reference with
  | some reference => rfl
  | none =>
      rw [refName?]
      cases firstOptionName? anyOf with
      | some name => rfl
      | none => cases firstOptionName? oneOf <;> rfl

theorem typeName_eq (schema : Schema) :
    schema.typeName =
      schema.target?.getD (plainTypeName schema.primaryType? schema.format
        (itemTypeName? schema.items) (valueTypeName? schema.additionalProperties)
        schema.refName?) := by
  obtain ⟨_, reference, _, _, _, _, _, _, _, _, _, _⟩ := schema
  cases reference <;> rw [typeName] <;> rfl

/-! ## The keyword of a union -/

section

variable (schema : Schema) (members : List Schema) (keyword : UnionKeyword)

@[simp] theorem type_withUnion : (schema.withUnion members keyword).type = schema.type := by
  cases keyword <;> rfl

theorem primaryType?_withUnion_of_untyped (htype : schema.type = none) :
    (schema.withUnion members keyword).primaryType? = firstType? members := by
  rw [primaryType?_of_untyped ((type_withUnion schema members keyword).trans htype)]
  cases keyword with
  | anyOf => exact Option.or_none
  | oneOf => rfl

theorem primaryType?_withUnion :
    (schema.withUnion members keyword).primaryType? =
      (schema.withUnion members .anyOf).primaryType? := by
  have hkeyword := type_withUnion schema members keyword
  have hany := type_withUnion schema members .anyOf
  cases htype : schema.type with
  | none =>
      rw [primaryType?_withUnion_of_untyped schema members _ htype,
        primaryType?_withUnion_of_untyped schema members _ htype]
  | some type =>
      rw [htype] at hkeyword hany
      cases type with
      | single name => rw [primaryType?_of_single hkeyword, primaryType?_of_single hany]
      | multiple names => rw [primaryType?_of_multiple hkeyword, primaryType?_of_multiple hany]

theorem refName?_withUnion :
    (schema.withUnion members keyword).refName? =
      schema.target?.or ((firstName? members).or (firstOptionName? schema.allOf)) := by
  rw [refName?_eq]
  cases keyword <;> rfl

theorem typeName_withUnion :
    (schema.withUnion members keyword).typeName =
      schema.target?.getD (plainTypeName (schema.withUnion members .anyOf).primaryType?
        schema.format (itemTypeName? schema.items) (valueTypeName? schema.additionalProperties)
        (schema.withUnion members .anyOf).refName?) := by
  rw [typeName_eq, primaryType?_withUnion, refName?_withUnion, refName?_withUnion]
  cases keyword <;> rfl

theorem isNullable_withUnion_anyOf :
    (schema.withUnion members .anyOf).isNullable = true ↔
      (∃ member ∈ members, member.type = some (.single "null")) ∨
        schema.nullable = some true ∨ schema.listsNull = true := by
  have hmembers : members.any isNullType = true ↔
      ∃ member ∈ members, member.type = some (.single "null") := by
    simp only [List.any_eq_true, isNullType, beq_iff_eq]
  calc (schema.withUnion members .anyOf).isNullable = true
      ↔ (schema.nullable == some true || members.any isNullType || schema.listsNull) = true :=
        Iff.rfl
    _ ↔ _ := by rw [Bool.or_eq_true, Bool.or_eq_true, beq_iff_eq, hmembers, or_assoc, or_left_comm]

theorem isNullable_withUnion_oneOf :
    (schema.withUnion members .oneOf).isNullable = true ↔
      schema.nullable = some true ∨ schema.listsNull = true := by
  calc (schema.withUnion members .oneOf).isNullable = true
      ↔ (schema.nullable == some true || false || schema.listsNull) = true := Iff.rfl
    _ ↔ _ := by rw [Bool.or_false, Bool.or_eq_true, beq_iff_eq]

end

/-- The keyword of a union does not show in the primary type, in the component that the schema
stands for, or in the type name. It shows in whether the schema accepts null, unless no member is
null or the schema accepts null anyway. -/
theorem union_keywords_agree_iff (schema : Schema) (members : List Schema) :
    let any := schema.withUnion members .anyOf
    let one := schema.withUnion members .oneOf
    one.primaryType? = any.primaryType? ∧ one.refName? = any.refName? ∧
      one.typeName = any.typeName ∧
      (any.isNullable = true ↔
        (∃ member ∈ members, member.type = some (.single "null")) ∨
          schema.nullable = some true ∨ schema.listsNull = true) ∧
      (one.isNullable = any.isNullable ↔
        (¬ ∃ member ∈ members, member.type = some (.single "null")) ∨
          schema.nullable = some true ∨ schema.listsNull = true) := by
  intro any one
  have hany := isNullable_withUnion_anyOf schema members
  have hone := isNullable_withUnion_oneOf schema members
  refine ⟨primaryType?_withUnion schema members .oneOf, ?_, ?_, hany, ?_⟩
  · rw [refName?_withUnion, refName?_withUnion]
  · rw [typeName_withUnion, typeName_withUnion]
  · rw [eq_comm, Bool.eq_iff_iff, hany, hone, or_iff_right_iff_imp, imp_iff_not_or]

/-- A schema that is null or a text, written under either keyword. -/
theorem not_union_keywords_agree :
    let members : List Schema := [{ type := some (.single "string") }, null]
    (withUnion {} members .anyOf).isNullable = true ∧
      (withUnion {} members .oneOf).isNullable = false := by
  decide

/-! ## Unions with null -/

theorem primaryType?_ne_null {schema : Schema} (htype : schema.type ≠ some (.single "null")) :
    schema.primaryType? ≠ some "null" := by
  have hfirst : ∀ members : Option (List Schema), firstOptionType? members ≠ some "null" := by
    intro members hnull
    cases members with
    | none => cases hnull
    | some members =>
        rw [firstOptionType?, firstType?_eq_findSome?] at hnull
        obtain ⟨member, _, hmember⟩ := List.exists_of_findSome?_eq_some hnull
        simp [Option.filter_eq_some_iff] at hmember
  intro hnull
  cases hdeclared : schema.type with
  | none =>
      rw [primaryType?_of_untyped hdeclared, Option.or_eq_some_iff] at hnull
      rcases hnull with hany | ⟨_, hone⟩
      · exact hfirst _ hany
      · exact hfirst _ hone
  | some type =>
      cases type with
      | single name =>
          rw [primaryType?_of_single hdeclared] at hnull
          obtain rfl := Option.some.inj hnull
          exact htype hdeclared
      | multiple names =>
          rw [primaryType?_of_multiple hdeclared] at hnull
          exact absurd (List.find?_some hnull) (by decide)

/-- The type that is written for a primary type where nothing else is known. -/
def bareTypeName? (primary : Option String) : Option String :=
  match primary with
  | some "integer" => some "number"
  | some "number" => some "number"
  | some "boolean" => some "boolean"
  | some "string" => some "string"
  | some "array" => some "Array<unknown>"
  | some "object" => some "Record<string, unknown>"
  | _ => none

theorem plainTypeName_bare (primary component : Option String) :
    plainTypeName primary none none none component =
      (bareTypeName? primary).getD (component.getD "unknown") := by
  unfold plainTypeName
  split
  case h_7 => simp [bareTypeName?, *]
  all_goals rfl

theorem plainTypeName_eq_bare_iff (primary format item value component : Option String) :
    plainTypeName primary format item value component =
        plainTypeName primary none none none component ↔
      (primary = some "string" → format ≠ some "binary") ∧
        (primary = some "array" → item.getD "unknown" = "unknown") ∧
        (primary = some "object" → value.getD "unknown" = "unknown") := by
  unfold plainTypeName
  split
  case h_4 => by_cases hformat : format = some "binary" <;> simp [hformat]
  case h_5 | h_6 =>
    rw [String.append_left_inj, String.append_right_inj]
    simp
  case h_7 hstring harray hobject =>
    refine iff_of_true rfl ⟨fun heq => ?_, fun heq => ?_, fun heq => ?_⟩
    · exact (hstring heq).elim
    · exact (harray heq).elim
    · exact (hobject heq).elim
  all_goals simp

theorem itemTypeName?_getD_iff {items : Option Schema} :
    (itemTypeName? items).getD "unknown" = "unknown" ↔
      ∀ item, items = some item → item.typeName = "unknown" := by
  cases items with
  | none => exact iff_of_true rfl nofun
  | some item => simp [itemTypeName?]

theorem valueTypeName?_getD_iff {additional : Option (Additional Schema)} :
    (valueTypeName? additional).getD "unknown" = "unknown" ↔
      ∀ value, additional = some (.each value) → value.typeName = "unknown" := by
  cases additional with
  | none => exact iff_of_true rfl nofun
  | some additional =>
      cases additional with
      | allowed value => exact iff_of_true rfl nofun
      | each value => simp [valueTypeName?]

/-- The type name of a schema can be told from its primary type and the component that it stands
for. -/
structure IsBare (schema : Schema) : Prop where
  target : ∀ name, schema.target? = some name →
    ∀ bare, bareTypeName? schema.primaryType? = some bare → name = bare
  format : schema.target? = none → schema.primaryType? = some "string" →
    schema.format ≠ some "binary"
  items : schema.target? = none → schema.primaryType? = some "array" →
    ∀ item, schema.items = some item → item.typeName = "unknown"
  values : schema.target? = none → schema.primaryType? = some "object" →
    ∀ value, schema.additionalProperties = some (.each value) → value.typeName = "unknown"

theorem plainTypeName_eq_typeName_iff (schema : Schema) :
    plainTypeName schema.primaryType? none none none schema.refName? = schema.typeName ↔
      schema.IsBare := by
  rw [typeName_eq]
  cases htarget : schema.target? with
  | none =>
      rw [Option.getD_none, eq_comm, plainTypeName_eq_bare_iff, itemTypeName?_getD_iff,
        valueTypeName?_getD_iff]
      constructor
      · rintro ⟨hformat, hitems, hvalues⟩
        exact ⟨by simp [htarget], fun _ => hformat, fun _ => hitems, fun _ => hvalues⟩
      · intro hbare
        exact ⟨hbare.format htarget, hbare.items htarget, hbare.values htarget⟩
  | some name =>
      rw [Option.getD_some, refName?_eq, htarget, plainTypeName_bare]
      constructor
      · intro heq
        refine ⟨fun other hother bare hname => ?_, ?_, ?_, ?_⟩
        · rw [htarget] at hother
          rw [hname] at heq
          exact (Option.some.inj hother).symm.trans heq.symm
        all_goals simp [htarget]
      · intro hbare
        cases hname : bareTypeName? schema.primaryType? with
        | none => rfl
        | some bare => exact (hbare.target name htarget bare hname).symm

section

variable {schema : Schema} {members : List Schema}
  (hmembers : members = [schema, null] ∨ members = [null, schema])

include hmembers

theorem firstType?_of_null (htype : schema.type ≠ some (.single "null")) :
    firstType? members = schema.primaryType? := by
  have hnull : null.primaryType?.filter (· ≠ "null") = none := rfl
  have hkept : schema.primaryType?.filter (· ≠ "null") = schema.primaryType? := by
    cases hprimary : schema.primaryType? with
    | none => rfl
    | some name =>
        have hne : name ≠ "null" := fun heq => primaryType?_ne_null htype (heq ▸ hprimary)
        simp [Option.filter, hne]
  rw [firstType?_eq_findSome?]
  rcases hmembers with rfl | rfl
  all_goals
    rw [List.findSome?_cons, List.findSome?_cons, hkept, hnull]
    cases schema.primaryType? <;> rfl

theorem firstName?_of_null : firstName? members = schema.refName? := by
  have hnull : null.refName? = none := rfl
  rw [firstName?_eq_findSome?]
  rcases hmembers with rfl | rfl
  all_goals
    rw [List.findSome?_cons, List.findSome?_cons, hnull]
    cases schema.refName? <;> rfl

end

/-- A union with null keeps the primary type of a schema and the component that it stands for. It
keeps its type name where that can be told from the two. -/
theorem union_with_null_iff {schema : Schema} (htype : schema.type ≠ some (.single "null"))
    {members : List Schema} (hmembers : members = [schema, null] ∨ members = [null, schema])
    (keyword : UnionKeyword) :
    let union := withUnion {} members keyword
    union.primaryType? = schema.primaryType? ∧ union.refName? = schema.refName? ∧
      (union.typeName = schema.typeName ↔ schema.IsBare) := by
  intro union
  have hprimary : union.primaryType? = schema.primaryType? := by
    rw [primaryType?_withUnion_of_untyped {} members keyword rfl, firstType?_of_null hmembers htype]
  have hname : union.refName? = schema.refName? := by
    rw [refName?_withUnion, firstName?_of_null hmembers]
    exact Option.or_none
  refine ⟨hprimary, hname, ?_⟩
  rw [← plainTypeName_eq_typeName_iff, ← hprimary, ← hname, typeName_eq union]
  cases keyword <;> exact Iff.rfl

/-- A toy or null, by reference. -/
def toyOrNull : Schema :=
  withUnion {} [{ reference := some "#/components/schemas/Toy" }, null] .anyOf

theorem union_with_null_iff_toyOrNull :
    let union := withUnion {} [null, toyOrNull] .oneOf
    toyOrNull.type ≠ some (.single "null") ∧ union.primaryType? = none ∧
      union.refName? = some "Toy" ∧ union.typeName = "Toy" := by
  intro union
  have htype : toyOrNull.type ≠ some (.single "null") := nofun
  have hbare : toyOrNull.IsBare := ⟨nofun, nofun, nofun, nofun⟩
  obtain ⟨hprimary, hname, htypeName⟩ := union_with_null_iff htype (.inr rfl) .oneOf
  refine ⟨htype, hprimary.trans ?_, hname.trans ?_, (htypeName.mpr hbare).trans ?_⟩
  all_goals decide

/-- A list of texts loses what its items are. -/
theorem not_union_with_null_strings :
    let strings : Schema :=
      { type := some (.single "array"), items := some { type := some (.single "string") } }
    strings.type ≠ some (.single "null") ∧ strings.typeName = "Array<string>" ∧
      (withUnion {} [strings, null] .anyOf).typeName = "Array<unknown>" ∧
      (withUnion {} [null, strings] .oneOf).typeName = "Array<unknown>" := by
  decide

end Schema

end ClientPlan.OpenApi

import Mathlib.Data.List.Chain
import ClientPlan.Outline.Models
import ClientPlan.Proofs.OrderedMap

/-! # Merged properties

A component has the properties of its `allOf` members and its own. Each stands where its name is
declared first, has the schema that it is declared with last, and is required where any of the
schemas requires it. Members are followed for a limited number of levels, and without a limit the
outcome is the same as long as no chain of members goes deeper.
-/

namespace ClientPlan

namespace Outline

open OpenApi

/-- The schemas that the members of `allOf` lead to, in order. -/
def members (document : Document) (schema : Schema) : List Schema :=
  (schema.allOf.getD []).filterMap document.resolve

/-- The schemas whose properties are folded in, in order: those of the members, for as many levels
as are left, and then the schema itself. -/
def visited (document : Document) : Nat → Schema → List Schema
  | 0, schema => [schema]
  | levels + 1, schema => (members document schema).flatMap (visited document levels) ++ [schema]

/-- The properties that a schema declares itself. -/
def ownProperties (schema : Schema) : List (String × Schema) :=
  schema.properties.getD []

/-- The properties that schemas declare, in order. -/
def declarations (schemas : List Schema) : List (String × Schema) :=
  schemas.flatMap ownProperties

/-! ## The merge in closed form -/

theorem add_eq_foldl (document : Document) (levels : Nat) (merged : Merged) (schema : Schema) :
    Merged.add document levels merged schema =
      (visited document levels schema).foldl Merged.addOwn merged := by
  induction levels generalizing merged schema with
  | zero => rfl
  | succ levels ih =>
      rw [Merged.add, visited, List.foldl_append, List.foldl_flatMap]
      simp only [← ih]
      rfl

theorem properties_foldl_addOwn (schemas : List Schema) (merged : Merged) :
    (schemas.foldl Merged.addOwn merged).properties =
      merged.properties.insertAll (declarations schemas) := by
  induction schemas generalizing merged with
  | nil => rfl
  | cons schema schemas ih =>
      rw [List.foldl_cons, ih, declarations, declarations, List.flatMap_cons,
        OrderedMap.insertAll, OrderedMap.insertAll, List.foldl_append]
      rfl

theorem mem_required_foldl_addOwn {schemas : List Schema} {merged : Merged} {name : String} :
    name ∈ (schemas.foldl Merged.addOwn merged).required ↔
      name ∈ merged.required ∨ ∃ schema ∈ schemas, name ∈ schema.required.getD [] := by
  induction schemas generalizing merged with
  | nil => simp
  | cons schema schemas ih =>
      simp only [List.foldl_cons, ih, Merged.addOwn, List.mem_append, List.exists_mem_cons_iff,
        or_assoc]

section

variable (document : Document) (schema : Schema)

theorem properties_merged :
    (merged document schema).properties =
      OrderedMap.insertAll [] (declarations (visited document maxAllOfDepth schema)) := by
  simp only [merged, add_eq_foldl, properties_foldl_addOwn]

theorem mem_required_merged {name : String} :
    name ∈ (merged document schema).required ↔
      ∃ found ∈ visited document maxAllOfDepth schema, name ∈ found.required.getD [] := by
  simp [merged, add_eq_foldl, mem_required_foldl_addOwn]

theorem exists_declarations_visited (levels : Nat) :
    ∃ inherited, declarations (visited document levels schema) =
      inherited ++ ownProperties schema := by
  cases levels with
  | zero => exact ⟨[], by simp [visited, declarations]⟩
  | succ levels =>
      refine ⟨declarations ((members document schema).flatMap (visited document levels)), ?_⟩
      simp [visited, declarations]

end

/-! ## The merge without a limit -/

/-- Schemas folded in one after the other. -/
inductive FoldsEach (folds : Merged → Schema → Merged → Prop) :
    Merged → List Schema → Merged → Prop
  | nil {merged : Merged} : FoldsEach folds merged [] merged
  | cons {before between after : Merged} {schema : Schema} {rest : List Schema}
      (hfirst : folds before schema between) (hrest : FoldsEach folds between rest after) :
      FoldsEach folds before (schema :: rest) after

/-- A schema folded in with all its members, however deep they go. -/
inductive Folds (document : Document) : Merged → Schema → Merged → Prop
  | schema {before between : Merged} {schema : Schema}
      (hmembers : FoldsEach (Folds document) before (members document schema) between) :
      Folds document before schema (between.addOwn schema)

/-- One schema is a member of another. -/
def IsMember (document : Document) (schema member : Schema) : Prop :=
  member ∈ members document schema

/-- Chains of members end within the given number of levels. -/
def chainsEnd (document : Document) : Nat → Schema → Bool
  | 0, schema => (members document schema).isEmpty
  | levels + 1, schema => (members document schema).all (chainsEnd document levels)

theorem chainsEnd_iff {document : Document} {levels : Nat} {schema : Schema} :
    chainsEnd document levels schema = true ↔
      ∀ chain, List.IsChain (IsMember document) (schema :: chain) → chain.length ≤ levels := by
  induction levels generalizing schema with
  | zero =>
      rw [chainsEnd, List.isEmpty_iff, List.eq_nil_iff_forall_not_mem]
      constructor
      · intro hnone chain hchain
        cases chain with
        | nil => exact Nat.le_refl 0
        | cons member rest =>
            obtain ⟨hmember, _⟩ := List.isChain_cons_cons.mp hchain
            exact absurd hmember (hnone member)
      · intro hchains member hmember
        have hshort := hchains [member] (.cons_cons hmember (.singleton _))
        exact Nat.not_succ_le_zero _ hshort
  | succ levels ih =>
      rw [chainsEnd, List.all_eq_true]
      constructor
      · intro hmembers chain hchain
        cases chain with
        | nil => exact Nat.zero_le _
        | cons member rest =>
            obtain ⟨hmember, hrest⟩ := List.isChain_cons_cons.mp hchain
            exact Nat.succ_le_succ (ih.mp (hmembers member hmember) rest hrest)
      · intro hchains member hmember
        refine ih.mpr fun chain hchain => ?_
        exact Nat.le_of_succ_le_succ (hchains (member :: chain) (.cons_cons hmember hchain))

theorem foldsEach_iff {folds : Merged → Schema → Merged → Prop}
    (step : Merged → Schema → Merged) {schemas : List Schema}
    (hfolds : ∀ schema ∈ schemas, ∀ before after,
      folds before schema after ↔ after = step before schema) {before after : Merged} :
    FoldsEach folds before schemas after ↔ after = schemas.foldl step before := by
  induction schemas generalizing before with
  | nil =>
      constructor
      · rintro ⟨⟩
        rfl
      · rintro rfl
        exact .nil
  | cons schema rest ih =>
      obtain ⟨hschema, hrest⟩ := List.forall_mem_cons.mp hfolds
      constructor
      · rintro (_ | ⟨hfirst, hlater⟩)
        rw [(hschema _ _).mp hfirst] at hlater
        exact (ih hrest).mp hlater
      · rintro rfl
        exact .cons ((hschema _ _).mpr rfl) ((ih hrest).mpr rfl)

theorem folds_iff_exists {document : Document} {before after : Merged} {schema : Schema} :
    Folds document before schema after ↔
      ∃ between, FoldsEach (Folds document) before (members document schema) between ∧
        after = between.addOwn schema := by
  constructor
  · rintro ⟨hmembers⟩
    exact ⟨_, hmembers, rfl⟩
  · rintro ⟨between, hmembers, rfl⟩
    exact .schema hmembers

/-- Where chains end in time, the limit is not met. -/
theorem folds_iff_of_chainsEnd {document : Document} {levels : Nat} {schema : Schema}
    (hends : chainsEnd document levels schema = true) {before after : Merged} :
    Folds document before schema after ↔ after = Merged.add document levels before schema := by
  induction levels generalizing schema before after with
  | zero =>
      have hnone : members document schema = [] := List.isEmpty_iff.mp hends
      have hmembers {between : Merged} :
          FoldsEach (Folds document) before (members document schema) between ↔
            between = before := by
        rw [hnone]
        exact foldsEach_iff (Merged.add document 0) fun _ hnot => absurd hnot List.not_mem_nil
      rw [folds_iff_exists]
      simp only [hmembers, exists_eq_left]
      rfl
  | succ levels ih =>
      have hmembers {between : Merged} :
          FoldsEach (Folds document) before (members document schema) between ↔
            between = (members document schema).foldl (Merged.add document levels) before := by
        refine foldsEach_iff _ fun member hmember before after => ?_
        exact ih (List.all_eq_true.mp hends member hmember)
      rw [folds_iff_exists]
      simp only [hmembers, exists_eq_left]
      rfl

/-! ## The properties of a model -/

section

variable {document : Document} {schema : Schema}

theorem mem_merged_iff {name : String} {declared : Schema} :
    (name, declared) ∈ (merged document schema).properties ↔
      ∃ earlier later, declarations (visited document maxAllOfDepth schema) =
          earlier ++ (name, declared) :: later ∧
        name ∉ later.map Prod.fst := by
  rw [properties_merged, OrderedMap.mem_insertAll_nil_iff]

theorem mem_properties_model_iff {flavour : Flavour} {name : String} {found : Client.Property} :
    found ∈ (model document flavour name schema).properties ↔
      ∃ declaredName declared, (declaredName, declared) ∈ (merged document schema).properties ∧
        property (merged document schema).required declaredName declared = found := by
  simp only [model, List.mem_map, Prod.exists]

theorem optional_property_eq_false_iff {name : String} {declared : Schema} :
    (property (merged document schema).required name declared).optional = false ↔
      ∃ requiring ∈ visited document maxAllOfDepth schema, name ∈ requiring.required.getD [] := by
  rw [← mem_required_merged, property, Bool.not_eq_false', List.contains_iff_mem]

end

/-- The properties of a model, by the declarations that are met on the way through the members. -/
theorem properties_model (document : Document) (flavour : Flavour) (name : String)
    (schema : Schema) :
    let schemas := visited document maxAllOfDepth schema
    let outlined := model document flavour name schema
    outlined.properties.map Client.Property.name =
        ((declarations schemas).map Prod.fst).eraseDups ∧
      (∀ found ∈ outlined.properties, ∃ earlier last later,
        declarations schemas = earlier ++ (found.name, last) :: later ∧
          found.name ∉ later.map Prod.fst ∧
          found.dataType = last.typeName ∧ found.nullable = last.isNullable ∧
          (found.optional = false ↔
            ∃ requiring ∈ schemas, found.name ∈ requiring.required.getD [])) ∧
      (∀ earlier own declared later,
        ownProperties schema = earlier ++ (own, declared) :: later → own ∉ later.map Prod.fst →
          ∃ found ∈ outlined.properties, found.name = own ∧
            found.dataType = declared.typeName ∧ found.nullable = declared.isNullable) ∧
      ((∀ chain, List.IsChain (IsMember document) (schema :: chain) →
          chain.length ≤ maxAllOfDepth) →
        ∃ outcome, (∀ other, Folds document {} schema other ↔ other = outcome) ∧
          outlined.properties = outcome.properties.map fun entry =>
            property outcome.required entry.1 entry.2) := by
  intro schemas outlined
  refine ⟨?_, ?_, ?_, ?_⟩
  · calc outlined.properties.map Client.Property.name
        = (merged document schema).properties.map Prod.fst := List.map_map
      _ = ((declarations schemas).map Prod.fst).eraseDups := by
          rw [properties_merged, OrderedMap.insertAll_nil_eq, List.map_map]
          exact List.map_id _
  · intro found hfound
    obtain ⟨declaredName, last, hmerged, rfl⟩ := mem_properties_model_iff.mp hfound
    obtain ⟨earlier, later, hdeclared, hlater⟩ := mem_merged_iff.mp hmerged
    exact ⟨earlier, last, later, hdeclared, hlater, rfl, rfl, optional_property_eq_false_iff⟩
  · intro earlier own declared later hown hlater
    obtain ⟨inherited, hinherited⟩ := exists_declarations_visited document schema maxAllOfDepth
    have hmerged : (own, declared) ∈ (merged document schema).properties := by
      rw [mem_merged_iff]
      exact ⟨inherited ++ earlier, later, by rw [hinherited, hown, List.append_assoc], hlater⟩
    exact ⟨_, mem_properties_model_iff.mpr ⟨own, declared, hmerged, rfl⟩, rfl, rfl, rfl⟩
  · intro hchains
    refine ⟨merged document schema, fun other => ?_, rfl⟩
    exact folds_iff_of_chainsEnd (chainsEnd_iff.mpr hchains)

/-- A schema that refers to a component. -/
def referring (name : String) : Schema :=
  { reference := some (componentPrefix ++ name) }

/-- A schema with nothing but a type. -/
def typed (name : String) : Schema :=
  { type := some (.single name) }

/-- What is sold, with its number. -/
def item : Schema where
  properties := some [("id", typed "integer"), ("note", typed "string")]
  required := some ["id"]

/-- A toy is an item in two ways, and what it says of its note comes last. -/
def toy : Schema where
  allOf := some [referring "Priced", referring "Stocked", { required := some ["note"] }]
  properties := some [("note", typed "boolean")]

/-- The components of a toy, of which one is missing. -/
def catalogue : Document where
  components := some
    { schemas := some
        [("Item", item),
          ("Priced",
            { allOf := some [referring "Item"]
              properties := some [("price", typed "number"), ("note", typed "integer")] }),
          ("Stocked",
            { allOf := some [referring "Item", referring "Shelf"]
              properties := some [("count", typed "integer")]
              required := some ["count"] }),
          ("Toy", toy)] }

theorem properties_model_toy :
    let outlined := model catalogue (.angular {}) "Toy" toy
    outlined.properties.map Client.Property.name = ["id", "note", "price", "count"] ∧
      (∃ found ∈ outlined.properties, found.name = "note" ∧ found.dataType = "boolean" ∧
        found.nullable = false) ∧
      ∃ outcome, (∀ other, Folds catalogue {} toy other ↔ other = outcome) ∧
        outlined.properties = outcome.properties.map fun entry =>
          property outcome.required entry.1 entry.2 := by
  intro outlined
  have hchains : ∀ chain, List.IsChain (IsMember catalogue) (toy :: chain) →
      chain.length ≤ maxAllOfDepth := chainsEnd_iff.mp (by decide +kernel)
  obtain ⟨hnames, _, hown, hfolds⟩ := properties_model catalogue (.angular {}) "Toy" toy
  refine ⟨hnames.trans (by decide +kernel), ?_, hfolds hchains⟩
  obtain ⟨found, hfound, hname, htype, hnullable⟩ :=
    hown [] "note" (typed "boolean") [] rfl List.not_mem_nil
  exact ⟨found, hfound, hname, htype.trans (by decide +kernel),
    hnullable.trans (by decide +kernel)⟩

end Outline

end ClientPlan

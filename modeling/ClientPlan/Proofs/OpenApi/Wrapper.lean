import ClientPlan.Proofs.OpenApi.Unions
import ClientPlan.Proofs.OpenApi.Walk

/-! # Wrapped references

A schema stands for the first component that is reached through its members, however many there
are. It is a reference or wraps a single one only if no further member takes part, so a composition
of several components is typed as the first of them.
-/

namespace ClientPlan.OpenApi.Schema

/-! ## Members -/

/-- The members of a schema under all keywords, in the order in which they are looked through. -/
def members (schema : Schema) : List Schema :=
  schema.anyOf.getD [] ++ schema.oneOf.getD [] ++ schema.allOf.getD []

/-- The members that are more than null. -/
def properMembers (schema : Schema) : List Schema :=
  schema.members.filter fun member => !member.isNullType

theorem mem_parts_of_mem_members {schema member : Schema} (hmember : member ∈ schema.members) :
    member ∈ schema.parts := by
  simp only [members, List.mem_append] at hmember
  simp only [parts, List.mem_append]
  tauto

theorem firstOptionName?_eq (members : Option (List Schema)) :
    firstOptionName? members = (members.getD []).findSome? refName? := by
  cases members with
  | none => rfl
  | some members => exact firstName?_eq_findSome? members

theorem refName?_eq_members (schema : Schema) :
    schema.refName? = schema.target?.or (schema.members.findSome? refName?) := by
  rw [refName?_eq, members, List.findSome?_append, List.findSome?_append, Option.or_assoc,
    firstOptionName?_eq, firstOptionName?_eq, firstOptionName?_eq]

/-! ## The components that are reached -/

/-- The components that a schema reaches: the one that it refers to, else all those that its members
reach, in order. -/
def reached (schema : Schema) : List String :=
  match schema.target? with
  | some name => [name]
  | none => schema.members.attach.flatMap fun member => reached member.1
termination_by sizeOf schema
decreasing_by exact sizeOf_lt_of_mem_parts (mem_parts_of_mem_members member.2)

theorem reached_of_target? {schema : Schema} {name : String} (htarget : schema.target? = some name) :
    schema.reached = [name] := by
  rw [reached, htarget]

theorem reached_of_members {schema : Schema} (htarget : schema.target? = none) :
    schema.reached = schema.members.flatMap reached := by
  rw [reached, htarget]
  exact (List.flatMap_subtype fun _ _ => rfl).trans (by rw [List.unattach_attach])

theorem findSome?_congr {α β : Type} {f g : α → Option β} {xs : List α}
    (hfg : ∀ x ∈ xs, f x = g x) : xs.findSome? f = xs.findSome? g := by
  induction xs with
  | nil => rfl
  | cons x xs ih =>
      obtain ⟨hx, hxs⟩ := List.forall_mem_cons.mp hfg
      rw [List.findSome?_cons, List.findSome?_cons, hx, ih hxs]

/-- A schema stands for the component that it reaches first. -/
theorem refName?_eq_head?_reached (schema : Schema) : schema.refName? = schema.reached.head? := by
  rw [refName?_eq_members]
  cases htarget : schema.target? with
  | some name => rw [reached_of_target? htarget]; rfl
  | none =>
      rw [reached_of_members htarget, List.head?_flatMap, Option.none_or]
      -- A member is smaller than the schema.
      exact findSome?_congr fun member hmember => refName?_eq_head?_reached member
termination_by sizeOf schema
decreasing_by exact sizeOf_lt_of_mem_parts (mem_parts_of_mem_members hmember)

/-- A schema refers to a component, or its one member that is more than null stands for it. -/
def Wraps (schema : Schema) (name : String) : Prop :=
  schema.target? = some name ∨
    ∃ member, schema.properMembers = [member] ∧ member.refName? = some name

theorem forall_wraps_iff (schema : Schema) :
    (∀ name, schema.refName? = some name → schema.Wraps name) ↔
      schema.target? ≠ none ∨ schema.reached = [] ∨
        ∃ member, schema.properMembers = [member] ∧
          member.reached.head? = schema.reached.head? := by
  rw [refName?_eq_head?_reached]
  constructor
  · intro hwraps
    cases hreached : schema.reached with
    | nil => exact .inr (.inl rfl)
    | cons first rest =>
        rcases hwraps first (by rw [hreached]; rfl) with htarget | ⟨member, hmember, hname⟩
        · exact .inl (by simp [htarget])
        · rw [refName?_eq_head?_reached] at hname
          exact .inr (.inr ⟨member, hmember, hname⟩)
  · rintro (htarget | hnothing | ⟨member, hmember, hfirst⟩) name hname
    · obtain ⟨found, hfound⟩ := Option.ne_none_iff_exists'.mp htarget
      rw [reached_of_target? hfound, List.head?_cons] at hname
      exact .inl (hfound.trans hname)
    · rw [hnothing] at hname
      cases hname
    · refine .inr ⟨member, hmember, ?_⟩
      rw [refName?_eq_head?_reached, hfirst, hname]

/-! ## Types of compositions -/

theorem plainTypeName_of_bareTypeName? {primary : Option String}
    (hbare : bareTypeName? primary = none) (format item value component : Option String) :
    plainTypeName primary format item value component = component.getD "unknown" := by
  unfold plainTypeName
  split
  case h_7 => rfl
  all_goals simp [bareTypeName?] at hbare

theorem typeName_of_members {schema : Schema} (htarget : schema.target? = none)
    (hbare : bareTypeName? schema.primaryType? = none) :
    schema.typeName = schema.reached.headD "unknown" := by
  rw [typeName_eq, htarget, Option.getD_none, plainTypeName_of_bareTypeName? hbare,
    refName?_eq_head?_reached, List.headD_eq_head?_getD]

/-- A schema stands for the component that it reaches first. This is a reference of its own, or one
of its only member that is more than null, exactly if it has a reference or reaches nothing or
reaches first what its only such member does. Members that have no type but reach components are
typed as the first of these. -/
theorem wraps_first_iff (schema : Schema) :
    schema.refName? = schema.reached.head? ∧
      ((∀ name, schema.refName? = some name → schema.Wraps name) ↔
        schema.target? ≠ none ∨ schema.reached = [] ∨
          ∃ member, schema.properMembers = [member] ∧
            member.reached.head? = schema.reached.head?) ∧
      (schema.target? = none → bareTypeName? schema.primaryType? = none →
        schema.typeName = schema.reached.headD "unknown") :=
  ⟨refName?_eq_head?_reached schema, forall_wraps_iff schema, typeName_of_members⟩

/-- A toy or null, in two more wrappers. -/
def wrappedToy : Schema where
  allOf := some [withUnion {} [null, toyOrNull] .oneOf]

theorem wraps_first_iff_wrappedToy :
    (wrappedToy.target? = none ∧ bareTypeName? wrappedToy.primaryType? = none ∧
        wrappedToy.typeName = "Toy") ∧
      wrappedToy.refName? = some "Toy" ∧
        ∀ name, wrappedToy.refName? = some name → wrappedToy.Wraps name := by
  have htarget : wrappedToy.target? = none := rfl
  have hbare : bareTypeName? wrappedToy.primaryType? = none := by decide
  have hname : wrappedToy.refName? = some "Toy" := by decide
  have hmember : (withUnion {} [null, toyOrNull] .oneOf).refName? = some "Toy" := by decide
  obtain ⟨hfirst, hwraps, htype⟩ := wraps_first_iff wrappedToy
  refine ⟨⟨htarget, hbare, ?_⟩, hname, hwraps.mpr (.inr (.inr ⟨_, rfl, ?_⟩))⟩
  · rw [htype htarget hbare, List.headD_eq_head?_getD, ← hfirst, hname, Option.getD_some]
  · rw [← hfirst, hname, ← hmember, refName?_eq_head?_reached]

/-- A pet or a toy is taken for a pet. -/
theorem not_wraps_petOrToy :
    let petOrToy := withUnion {}
      [{ reference := some "#/components/schemas/Pet" },
        { reference := some "#/components/schemas/Toy" }] .anyOf
    petOrToy.refName? = some "Pet" ∧ petOrToy.typeName = "Pet" ∧ ¬ petOrToy.Wraps "Pet" := by
  intro petOrToy
  refine ⟨by decide, by decide, ?_⟩
  rintro (htarget | ⟨member, hmember, _⟩)
  · cases htarget
  · cases hmember

end ClientPlan.OpenApi.Schema

import ClientPlan.Proofs.OpenApi.References

/-! # The form of written types

The type that is written for a schema is a basic type or a component, inside any number of lists
and records. The component in it is one of those that the schema refers to.
-/

namespace ClientPlan.OpenApi

/-- The types that are written without a part. -/
inductive BasicType where
  | number
  | boolean
  | string
  | blob
  | unknown
  | void
  deriving DecidableEq, Repr

/-- The word for a basic type. -/
def BasicType.word : BasicType → String
  | number => "number"
  | boolean => "boolean"
  | string => "string"
  | blob => "Blob"
  | unknown => "unknown"
  | void => "void"

/-- A type, before it is written. -/
inductive TypeForm where
  | basic (type : BasicType)
  | component (name : String)
  | list (items : TypeForm)
  | record (values : TypeForm)
  deriving DecidableEq, Repr

namespace TypeForm

/-- A list of items that are written as given. -/
def listText (items : String) : String :=
  "Array<" ++ items ++ ">"

/-- A record of values that are written as given. -/
def recordText (values : String) : String :=
  "Record<string, " ++ values ++ ">"

theorem toList_listText (items : String) :
    (listText items).toList = "Array".toList ++ '<' :: (items.toList ++ ['>']) := by
  change ("Array<" ++ items ++ ">").toList = _
  simp

theorem toList_recordText (values : String) :
    (recordText values).toList =
      "Record".toList ++ '<' :: ("string".toList ++ ',' :: ' ' :: (values.toList ++ ['>'])) := by
  change ("Record<string, " ++ values ++ ">").toList = _
  simp

/-- The type as it is written. -/
def text : TypeForm → String
  | basic type => type.word
  | component name => name
  | list items => listText items.text
  | record values => recordText values.text

/-- The component inside all lists and records, if there is one. -/
def component? : TypeForm → Option String
  | basic _ => none
  | component name => some name
  | list items => items.component?
  | record values => values.component?

end TypeForm

namespace Schema

/-- The type of a schema without a reference, given the same as for its text. -/
def plainForm (primary : Option String) (format : Option String) (item : Option TypeForm)
    (value : Option TypeForm) (component : Option String) : TypeForm :=
  match primary with
  | some "integer" => .basic .number
  | some "number" => .basic .number
  | some "boolean" => .basic .boolean
  | some "string" => if format = some "binary" then .basic .blob else .basic .string
  | some "array" => .list (item.getD (.basic .unknown))
  | some "object" => .record (value.getD (.basic .unknown))
  | _ => (component.map .component).getD (.basic .unknown)

mutual

/-- The type of a schema. -/
def form : Schema → TypeForm
  | ⟨type, reference, properties, required, items, enumValues, additional, allOf, anyOf, oneOf,
      format, nullable⟩ =>
    match reference with
    | some name => .component (componentName name)
    | none =>
      let self : Schema := ⟨type, none, properties, required, items, enumValues, additional,
        allOf, anyOf, oneOf, format, nullable⟩
      plainForm self.primaryType? format (itemForm? items) (valueForm? additional) self.refName?

/-- The type of the items of a list, where it is declared. -/
def itemForm? : Option Schema → Option TypeForm
  | none => none
  | some schema => some (form schema)

/-- The type of the additional values, where they have a schema. -/
def valueForm? : Option (Additional Schema) → Option TypeForm
  | none => none
  | some (.allowed _) => none
  | some (.each schema) => some (form schema)

end

/-! ## The text of a form -/

theorem text_plainForm (primary format : Option String) (item value : Option TypeForm)
    (component : Option String) :
    (plainForm primary format item value component).text =
      plainTypeName primary format (item.map TypeForm.text) (value.map TypeForm.text)
        component := by
  unfold plainForm plainTypeName
  split
  case h_4 => split <;> rfl
  case h_5 => cases item <;> rfl
  case h_6 => cases value <;> rfl
  case h_7 => cases component <;> simp [TypeForm.text, BasicType.word, *]
  all_goals rfl

mutual

/-- What is written for a schema is the text of its form. -/
theorem text_form : ∀ schema : Schema, schema.form.text = schema.typeName
  | ⟨_, some _, _, _, _, _, _, _, _, _, _, _⟩ => rfl
  | ⟨_, none, _, _, items, _, additional, _, _, _, _, _⟩ => by
      rw [form, typeName, text_plainForm, text_itemForm? items, text_valueForm? additional]

theorem text_itemForm? : ∀ items : Option Schema,
    (itemForm? items).map TypeForm.text = itemTypeName? items
  | none => rfl
  | some schema => by
      rw [itemForm?, itemTypeName?, Option.map_some, text_form schema]

theorem text_valueForm? : ∀ additional : Option (Additional Schema),
    (valueForm? additional).map TypeForm.text = valueTypeName? additional
  | none => rfl
  | some (.allowed _) => rfl
  | some (.each schema) => by
      rw [valueForm?, valueTypeName?, Option.map_some, text_form schema]

end

/-! ## The component in a form -/

theorem component?_plainForm {primary format : Option String} {item value : Option TypeForm}
    {component : Option String} {name : String}
    (hname : (plainForm primary format item value component).component? = some name) :
    item.bind TypeForm.component? = some name ∨ value.bind TypeForm.component? = some name ∨
      component = some name := by
  unfold plainForm at hname
  split at hname
  case h_4 => split at hname <;> cases hname
  case h_5 =>
    cases item with
    | none => cases hname
    | some item => exact .inl hname
  case h_6 =>
    cases value with
    | none => cases hname
    | some value => exact .inr (.inl hname)
  case h_7 =>
    cases component with
    | none => cases hname
    | some component => exact .inr (.inr hname)
  all_goals cases hname

mutual

/-- The component that is written for a schema is one of those that it refers to. -/
theorem mem_references_of_component?_form : ∀ {schema : Schema} {name : String},
    schema.form.component? = some name → name ∈ Outline.references schema
  | ⟨_, reference, _, _, items, _, additional, _, _, _, _, _⟩, name, hname => by
      cases reference with
      | some reference =>
          rw [form] at hname
          exact Outline.mem_references_of_target? hname
      | none =>
          rw [form] at hname
          rcases component?_plainForm hname with hitem | hvalue | hcomponent
          · rw [Outline.references_eq]
            simp [mem_references_of_itemForm? hitem]
          · rw [Outline.references_eq]
            simp [mem_references_of_valueForm? hvalue]
          · exact mem_references_of_refName? hcomponent

theorem mem_references_of_itemForm? : ∀ {items : Option Schema} {name : String},
    (itemForm? items).bind TypeForm.component? = some name → name ∈ Outline.itemReferences items
  | some _, _, hname => mem_references_of_component?_form hname

theorem mem_references_of_valueForm? : ∀ {additional : Option (Additional Schema)} {name : String},
    (valueForm? additional).bind TypeForm.component? = some name →
      name ∈ Outline.valueReferences additional
  | some (.each _), _, hname => mem_references_of_component?_form hname

end

end Schema

end ClientPlan.OpenApi

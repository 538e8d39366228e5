import ClientPlan.Proofs.Code.DeclarationText
import ClientPlan.Proofs.Code.TypeText
import ClientPlan.Proofs.Outline.ModelImports
import ClientPlan.Proofs.Plan.ModelFiles

/-! # Reading model files

What a model file declares is the model that it was rendered for, if the text of the model can stand
where it is put: between quotes as it is, or as a name or a type on its own.
-/

namespace ClientPlan

namespace Code

open Client TemplateLiteral

/-- What is read as a declaration says the same as the model. -/
def DeclarationReading.Describes (model : Model) : DeclarationReading → Prop
  | union name values =>
      name = model.name ∧ model.enumValues ≠ [] ∧
        values = model.enumValues.map fun value => units value.toList
  | .alias name type =>
      name = model.name ∧ model.enumValues = [] ∧ ∃ text, model.aliasOf = some text ∧ text ≠ "" ∧
        tokens? text.toList = some type
  | interface name parents members =>
      name = model.name ∧ model.enumValues = [] ∧ model.aliasOf.getD "" = "" ∧
        parents = model.parents ∧ List.Forall₂ MemberReading.Describes members model.properties

namespace Declaration

/-- A declaration whose names are words and whose values can stand between quotes. -/
def IsPlain : Declaration → Prop
  | union _ values => ∀ value ∈ values, IsPlainText '\'' value.toList
  | .alias _ _ => True
  | interface _ _ properties => ∀ property ∈ properties, IsIdentifierName property.name

/-- A plain declaration that declares an identifier, extends identifiers, and has types that are
types. -/
def IsReadable : Declaration → Prop
  | union name values => IsIdentifier name ∧ ∀ value ∈ values, IsPlainText '\'' value.toList
  | .alias name type => IsIdentifier name ∧ IsTypeText type
  | interface name parents properties =>
      IsIdentifier name ∧ (∀ parent ∈ parents, IsIdentifier parent) ∧
        ∀ property ∈ properties, IsIdentifierName property.name ∧ IsTypeText property.type

instance (declaration : Declaration) : Decidable declaration.IsPlain :=
  match declaration with
  | union _ _ => inferInstanceAs (Decidable (∀ _ ∈ _, _))
  | .alias _ _ => inferInstanceAs (Decidable True)
  | interface _ _ _ => inferInstanceAs (Decidable (∀ _ ∈ _, _))

instance (declaration : Declaration) : Decidable declaration.IsReadable :=
  match declaration with
  | union _ _ => inferInstanceAs (Decidable (_ ∧ ∀ _ ∈ _, _))
  | .alias _ _ => inferInstanceAs (Decidable (_ ∧ _))
  | interface _ _ _ => inferInstanceAs (Decidable (_ ∧ (∀ _ ∈ _, _) ∧ ∀ _ ∈ _, _ ∧ _))

end Declaration

section

variable {model : Model}

theorem ofModel_of_enumValues (henum : model.enumValues ≠ []) :
    Declaration.ofModel model = .union model.name model.enumValues := by
  simp [Declaration.ofModel, henum]

theorem ofModel_of_aliasOf (henum : model.enumValues = []) {type : String}
    (halias : model.aliasOf = some type) (htype : type ≠ "") :
    Declaration.ofModel model = .alias model.name type := by
  simp [Declaration.ofModel, henum, halias, htype]

theorem ofModel_of_properties (henum : model.enumValues = [])
    (halias : model.aliasOf.getD "" = "") :
    Declaration.ofModel model =
      .interface model.name model.parents (model.properties.map propertyLine) := by
  simp [Declaration.ofModel, henum, halias, propertyLine]

theorem ofModel_cases (model : Model) :
    model.enumValues ≠ [] ∨
      (model.enumValues = [] ∧ ∃ type, model.aliasOf = some type ∧ type ≠ "") ∨
      (model.enumValues = [] ∧ model.aliasOf.getD "" = "") := by
  by_cases henum : model.enumValues = []
  · refine .inr ?_
    cases halias : model.aliasOf with
    | none => exact .inr ⟨henum, rfl⟩
    | some type =>
        by_cases htype : type = ""
        · exact .inr ⟨henum, htype⟩
        · exact .inl ⟨henum, type, rfl, htype⟩
  · exact .inl henum

end

/-- What is written for a model is read as the model exactly where it is readable. -/
theorem exists_reading_iff (model : Model) :
    (∃ reading, reading? (unlines (Declaration.ofModel model).lines) = some reading ∧
        reading.Describes model) ↔
      (Declaration.ofModel model).IsReadable := by
  rcases ofModel_cases model with henum | ⟨henum, type, halias, htype⟩ | ⟨henum, halias⟩
  · rw [ofModel_of_enumValues henum, Declaration.IsReadable, ← reading?_union_iff henum]
    constructor
    · rintro ⟨reading, hread, hdescribes⟩
      match reading, hdescribes with
      | .union _ _, ⟨rfl, _, rfl⟩ => exact hread
      | .alias _ _, ⟨_, hnone, _⟩ => exact absurd hnone henum
      | .interface _ _ _, ⟨_, hnone, _⟩ => exact absurd hnone henum
    · intro hread
      exact ⟨_, hread, rfl, henum, rfl⟩
  · rw [ofModel_of_aliasOf henum halias htype, Declaration.IsReadable, ← reading?_alias_iff]
    constructor
    · rintro ⟨reading, hread, hdescribes⟩
      match reading, hdescribes with
      | .union _ _, ⟨_, hsome, _⟩ => exact absurd henum hsome
      | .alias _ tokens, ⟨rfl, _, text, htext, _, htokens⟩ =>
          obtain rfl := Option.some.inj (halias.symm.trans htext)
          exact ⟨tokens, htokens, hread⟩
      | .interface _ _ _, ⟨_, _, hempty, _⟩ =>
          rw [halias] at hempty
          exact absurd hempty htype
    · rintro ⟨tokens, htokens, hread⟩
      exact ⟨_, hread, rfl, henum, type, halias, htype, htokens⟩
  · have hlines : (∀ property ∈ model.properties.map propertyLine,
        IsIdentifierName property.name ∧ IsTypeText property.type) ↔
          ∀ property ∈ model.properties,
            IsIdentifierName property.name ∧ IsTypeText property.dataType :=
      List.forall_mem_map
    rw [ofModel_of_properties henum halias, Declaration.IsReadable, hlines,
      ← reading?_interface_iff]
    constructor
    · rintro ⟨reading, hread, hdescribes⟩
      match reading, hdescribes with
      | .union _ _, ⟨_, hsome, _⟩ => exact absurd henum hsome
      | .alias _ _, ⟨_, _, text, htext, hne, _⟩ =>
          rw [htext] at halias
          exact absurd halias hne
      | .interface _ _ members, ⟨rfl, _, _, rfl, hmembers⟩ => exact ⟨members, hmembers, hread⟩
    · rintro ⟨members, hmembers, hread⟩
      exact ⟨_, hread, rfl, henum, halias, rfl, hmembers⟩

end Code

namespace Plan

open Client Code OpenApi

/-! ## Models that name identifiers -/

theorem isTypeText_typeName {schema : Schema}
    (hnames : ∀ target ∈ Outline.references schema, IsIdentifier target) :
    IsTypeText schema.typeName := by
  rw [← Schema.text_form]
  exact TypeForm.isTypeText_text fun name hname =>
    hnames name (Schema.mem_references_of_component?_form hname)

/-- If a component and those that it refers to have identifiers as names, its model is readable
where its declaration is plain. -/
theorem isReadable_ofModel_iff (document : Document) (flavour : Flavour) (readonly : Bool)
    (name : String) (schema : Schema) {model : Model}
    (hmodel : model = (Outline.model document flavour name schema).annotate readonly)
    (hnames : ∀ other ∈ model.name :: model.imports, IsIdentifier other) :
    (Declaration.ofModel model).IsReadable ↔ (Declaration.ofModel model).IsPlain := by
  obtain ⟨hname, himports⟩ := List.forall_mem_cons.mp hnames
  have hrefers : ∀ target, Outline.RefersTo document schema target → IsIdentifier target := by
    intro target hrefers
    rw [hmodel] at hname himports
    rcases Outline.mem_imports_or_eq hrefers name with hmem | rfl
    · exact himports target hmem
    · exact hname
  rcases ofModel_cases model with henum | ⟨henum, type, halias, htype⟩ | ⟨henum, halias⟩
  · rw [ofModel_of_enumValues henum, Declaration.IsReadable, Declaration.IsPlain]
    exact and_iff_right hname
  · rw [ofModel_of_aliasOf henum halias htype, Declaration.IsReadable, Declaration.IsPlain]
    have hschema : type = schema.typeName := by
      rw [hmodel] at halias
      simp only [Model.annotate, Outline.model] at halias
      split at halias
      next => exact (Option.some.inj halias).symm
      next => cases halias
    refine iff_true_intro ⟨hname, ?_⟩
    rw [hschema]
    exact isTypeText_typeName fun target htarget => hrefers target (.inl htarget)
  · rw [ofModel_of_properties henum halias, Declaration.IsReadable, Declaration.IsPlain]
    have hparents : ∀ parent ∈ model.parents, IsIdentifier parent := by
      intro parent hparent
      rw [hmodel] at hparent
      exact hrefers parent (.inl (Outline.mem_references_of_mem_parents hparent))
    have htypes : ∀ property ∈ model.properties, IsTypeText property.dataType := by
      rw [hmodel]
      refine List.forall_mem_map.mpr (List.forall_mem_map.mpr fun entry hentry => ?_)
      exact isTypeText_typeName fun target htarget => hrefers target (.inr ⟨entry, hentry, htarget⟩)
    rw [List.forall_mem_map, List.forall_mem_map]
    constructor
    · rintro ⟨-, -, hproperties⟩ property hproperty
      exact (hproperties property hproperty).1
    · intro hwords
      exact ⟨hname, hparents, fun property hproperty =>
        ⟨hwords property hproperty, htypes property hproperty⟩⟩

/-! ## The text of a model file -/

theorem unlines_append (first second : List String) :
    unlines (first ++ second) = unlines first ++ unlines second := by
  rw [unlines, List.map_append, String.join_append]
  rfl

theorem render_model_eq_ok {plan : Plan} {file : PlannedFile} {model : Model} {text : String}
    (hkind : file.kind = .model) (hindex : plan.models[file.index]? = some model)
    (hrender : plan.render {} file = .ok text) :
    ∃ imports, plan.imports? "./" model.imports = some imports ∧
      text = unlines ([header] ++ imports.map Import.text ++ [""]) ++
        unlines (Declaration.ofModel model).lines := by
  rw [render_model hkind hindex, modelFile?] at hrender
  cases himports : plan.imports? "./" model.imports with
  | none =>
      rw [himports] at hrender
      cases hrender
  | some imports =>
      rw [himports] at hrender
      exact ⟨imports, rfl, (Except.ok.inj hrender).symm.trans (unlines_append _ _)⟩

/-- Each component has a model file. Where this is rendered, it ends in a declaration, which is read
as the model exactly where it is readable. For a component that has an identifier for a name, and
refers to such only, this is left to the values of a union, which must not hold a quote, a backslash
or a line break, and to the names of properties, which must be words. -/
theorem model_read_back_iff {options : Options} {document : Document} {plan : Plan}
    (hplan : ofDocument (.angular options) document = .ok plan) {index : Nat} {name : String}
    {schema : Schema} (hcomponent : document.schemas[index]? = some (name, schema)) :
    ∃ model file, plan.models[index]? = some model ∧ model.name = name ∧
      file ∈ plan.plannedFiles ∧ file.kind = .model ∧ file.index = index ∧
      (∀ text, plan.render {} file = .ok text →
        ∃ imports code, plan.imports? "./" model.imports = some imports ∧
          text = unlines ([header] ++ imports.map Import.text ++ [""]) ++ code ∧
          ((∃ reading, reading? code = some reading ∧ reading.Describes model) ↔
            (Declaration.ofModel model).IsReadable)) ∧
      ((∀ other ∈ model.name :: model.imports, IsIdentifier other) →
        ((Declaration.ofModel model).IsReadable ↔ (Declaration.ofModel model).IsPlain)) := by
  let model := (Outline.model document (.angular options) name schema).annotate
    options.readonlyOutputModels
  have hmodel : plan.models[index]? = some model := by
    rw [models_eq_of_ok hplan, List.getElem?_map, hcomponent]
    rfl
  have hfile := mem_plannedFiles_of_getElem? hplan hmodel
  refine ⟨model, _, hmodel, rfl, hfile, rfl, rfl, ?_, ?_⟩
  · intro text hrender
    obtain ⟨imports, himports, rfl⟩ := render_model_eq_ok rfl hmodel hrender
    exact ⟨imports, _, himports, rfl, exists_reading_iff model⟩
  · exact isReadable_ofModel_iff document _ _ name schema rfl

/-- Books of some kinds, on shelves. -/
def library : Document where
  components := some
    { schemas := some
        [("Kind", { enumValues := some [.string "novel", .string "atlas"] }),
          ("Shelf",
            { properties := some
                [("label", { type := some (.single "string") }),
                  ("kinds",
                    { type := some (.single "array")
                      items := some { reference := some "#/components/schemas/Kind" } }),
                  ("cleared", { type := some (.single "string"), nullable := some true })]
              required := some ["label"] })] }

/-- Both components of the library are read back. -/
theorem model_read_back_iff_library :
    ∃ plan, ofDocument (.angular {}) library = .ok plan ∧
      ∀ component ∈ library.schemas.zipIdx, ∃ model file text,
        plan.models[component.2]? = some model ∧ model.name = component.1.1 ∧
          file ∈ plan.plannedFiles ∧ file.index = component.2 ∧ plan.render {} file = .ok text ∧
          ∃ top code reading, text = top ++ code ∧ reading? code = some reading ∧
            reading.Describes model := by
  have hplan := ofDocument_of_lenient {} library rfl
  have hplain : ∀ model ∈ (outcome {} library).models,
      (∀ other ∈ model.name :: model.imports, IsIdentifier other) ∧
        (Declaration.ofModel model).IsPlain := by
    decide +kernel
  have hrenders : ∀ file ∈ (outcome {} library).plannedFiles,
      ((outcome {} library).render {} file).isOk = true := by
    decide +kernel
  refine ⟨_, hplan, ?_⟩
  rintro ⟨⟨name, schema⟩, index⟩ hcomponent
  obtain ⟨model, file, hmodel, hname, hfile, -, hindex, hread, hreadable⟩ :=
    model_read_back_iff hplan (List.mk_mem_zipIdx_iff_getElem?.mp hcomponent)
  have hrender := hrenders file hfile
  cases htext : (outcome {} library).render {} file with
  | error error =>
      rw [htext] at hrender
      cases hrender
  | ok text =>
      obtain ⟨hnames, hplain⟩ := hplain model (List.mem_of_getElem? hmodel)
      obtain ⟨imports, code, -, htext', hreads⟩ := hread text htext
      obtain ⟨reading, hreading⟩ := hreads.mpr ((hreadable hnames).mpr hplain)
      exact ⟨model, file, text, hmodel, hname, hfile, hindex, htext, _, code, reading, htext',
        hreading⟩

/-- A name with a hyphen, and a value with a quote in it. -/
def signUp : Document where
  components := some
    { schemas := some
        [("Person",
            { properties := some [("first-name", { type := some (.single "string") })] }),
          ("Answer", { enumValues := some [.string "yes", .string "it's"] })] }

theorem not_read_back_signUp :
    ∃ plan, ofDocument (.angular {}) signUp = .ok plan ∧
      plan.render {} ⟨"models/person.ts", .model, 0⟩ =
        .ok ("// Generated by ngen. Do not edit.\n\n" ++
          "export interface Person \x7b\n  readonly first-name?: string;\n\x7d\n") ∧
      reading? "export interface Person \x7b\n  readonly first-name?: string;\n\x7d\n" = none ∧
      plan.render {} ⟨"models/answer.ts", .model, 1⟩ =
        .ok ("// Generated by ngen. Do not edit.\n\n" ++
          "export type Answer = 'yes' | 'it's';\n") ∧
      reading? "export type Answer = 'yes' | 'it's';\n" = none := by
  have hplan := ofDocument_of_lenient {} signUp rfl
  exact ⟨_, hplan, by decide +kernel, by decide +kernel, by decide +kernel, by decide +kernel⟩

end Plan

end ClientPlan

import ClientPlan.Proofs.Outline.Imports
import ClientPlan.Proofs.Plan.ApiFiles
import ClientPlan.Proofs.Plan.Paths

/-! # When rendering fails

The built-in layouts look up one thing that may be missing: the file of an imported model. Files of
tags import models only, so they are always rendered. A model imports whatever it refers to, and its
file fails for a reference to no component.
-/

namespace ClientPlan.Plan

open Client Code

/-! ## Looking up imports -/

/-- The look-up of an imported name is one in a map of the models by their names: it finds the file
of the model of that name, and nothing where there is none. -/
def LooksUp (plan : Plan) (name : String) : Prop :=
  stem? plan.models name = (plan.model? name).map Model.fileName

instance (plan : Plan) (name : String) : Decidable (plan.LooksUp name) :=
  inferInstanceAs (Decidable (_ = _))

theorem looksUp_of_isPlainStep (plan : Plan) {name : String} (hname : IsPlainStep name) :
    plan.LooksUp name :=
  stem?_of_isPlainStep hname plan.models

theorem stem?_eq_none_iff {plan : Plan} {name : String} (hlookup : plan.LooksUp name) :
    stem? plan.models name = none ↔ name ∉ plan.models.map Model.name := by
  rw [hlookup, Option.map_eq_none_iff, model?, List.find?_eq_none]
  simp

theorem imports?_eq_none_iff {plan : Plan} {folder : String} {names : List String}
    (hlookup : ∀ name ∈ names, plan.LooksUp name) :
    plan.imports? folder names = none ↔ ∃ name ∈ names, name ∉ plan.models.map Model.name := by
  rw [imports?, mapM_eq_none_iff]
  refine exists_congr fun name => and_congr_right fun hname => ?_
  rw [Option.map_eq_none_iff, stem?_eq_none_iff (hlookup name hname)]

/-- A model file is rendered if all its imports are found. -/
theorem render_model {plan : Plan} {file : PlannedFile} {model : Model}
    (hkind : file.kind = .model) (hindex : plan.models[file.index]? = some model) :
    plan.render {} file =
      (plan.modelFile? model).elim (.error ⟨ArtifactKind.model.templateName⟩)
        fun content => .ok (unlines content.lines) := by
  rw [render, hkind]
  simp only [Overrides.get, builtInLines?, hkind, hindex, Option.bind_some]
  cases plan.modelFile? model <;> rfl

theorem render_model_eq_error_iff {plan : Plan} {file : PlannedFile} {model : Model}
    (hkind : file.kind = .model) (hindex : plan.models[file.index]? = some model) :
    (∃ error, plan.render {} file = .error error) ↔ plan.imports? "./" model.imports = none := by
  rw [render_model hkind hindex, modelFile?]
  cases plan.imports? "./" model.imports <;> simp

theorem exists_text_iff (plan : Plan) (file : PlannedFile) :
    (∃ text, plan.render {} file = .ok text) ↔ ¬ ∃ error, plan.render {} file = .error error := by
  cases plan.render {} file <;> simp

/-! ## The models of a plan -/

theorem mem_modelFiles {plan : Plan} {file : PlannedFile} :
    file ∈ plan.modelFiles ↔
      file.kind = .model ∧ ∃ model, plan.models[file.index]? = some model ∧
        file.path = ArtifactKind.model.pathFor model.fileName := by
  rw [modelFiles, List.mem_map]
  constructor
  · rintro ⟨⟨model, index⟩, hentry, rfl⟩
    exact ⟨rfl, model, List.mk_mem_zipIdx_iff_getElem?.mp hentry, rfl⟩
  · rintro ⟨hkind, model, hmodel, hpath⟩
    obtain ⟨path, kind, index⟩ := file
    obtain rfl : kind = .model := hkind
    obtain rfl : path = ArtifactKind.model.pathFor model.fileName := hpath
    exact ⟨(model, index), List.mk_mem_zipIdx_iff_getElem?.mpr hmodel, rfl⟩

section

variable {options : Options} {document : OpenApi.Document} {plan : Plan}
  (hplan : ofDocument (.angular options) document = .ok plan)

include hplan

theorem mem_plannedFiles_of_eq_model {file : PlannedFile} (hkind : file.kind = .model) :
    file ∈ plan.plannedFiles ↔ file ∈ plan.modelFiles := by
  rw [plannedFiles, List.mem_filter, List.mem_append]
  constructor
  · rintro ⟨hmodel | hapi, _⟩
    · exact hmodel
    · have hofTag := (mem_apiFiles.mp hapi).1
      rw [hkind] at hofTag
      exact absurd hofTag (ArtifactKind.model_not_mem_ofTag _)
  · intro hmodel
    obtain ⟨_, model, _, hpath⟩ := mem_modelFiles.mp hmodel
    refine ⟨Or.inl hmodel, ?_⟩
    rw [hpath]
    simpa using model_path_not_mem_skipSet hplan model.fileName

/-- Each model has a planned file. -/
theorem mem_plannedFiles_of_getElem? {index : Nat} {model : Model}
    (hindex : plan.models[index]? = some model) :
    ⟨ArtifactKind.model.pathFor model.fileName, .model, index⟩ ∈ plan.plannedFiles :=
  (mem_plannedFiles_of_eq_model hplan rfl).mpr (mem_modelFiles.mpr ⟨rfl, model, hindex, rfl⟩)

theorem models_eq_of_ok :
    plan.models = document.schemas.map fun entry =>
      (Outline.model document (.angular options) entry.1 entry.2).annotate
        options.readonlyOutputModels := by
  rw [eq_outcome_of_ok hplan, outcome, planned]
  simp only [Outline.models, List.map_map, Flavour.angular]
  rfl

theorem map_name_models_of_ok : plan.models.map Model.name = document.schemas.keys := by
  rw [models_eq_of_ok hplan, List.map_map]
  rfl

/-- A model stands for a component, and imports what this refers to. -/
theorem forall_mem_imports_iff {p : String → Prop} :
    (∀ model ∈ plan.models, ∀ target ∈ model.imports, p target) ↔
      ∀ entry ∈ document.schemas, ∀ target, Outline.RefersTo document entry.2 target →
        target ≠ entry.1 → p target := by
  rw [models_eq_of_ok hplan, List.forall_mem_map]
  refine forall₂_congr fun entry _ => ?_
  have himports : ∀ target, target ∈ ((Outline.model document (.angular options) entry.1
      entry.2).annotate options.readonlyOutputModels).imports ↔
        Outline.RefersTo document entry.2 target ∧ target ≠ entry.1 :=
    fun target => Outline.mem_imports
  simp only [himports, and_imp]

theorem render_model_fails_iff {file : PlannedFile} {model : Model} (hkind : file.kind = .model)
    (hindex : plan.models[file.index]? = some model)
    (hlookup : ∀ name ∈ model.imports, plan.LooksUp name) :
    (∃ error, plan.render {} file = .error error) ↔
      ∃ name ∈ model.imports, name ∉ document.schemas.keys := by
  rw [render_model_eq_error_iff hkind hindex, imports?_eq_none_iff hlookup,
    map_name_models_of_ok hplan]

/-- Files of tags are always rendered. The file of a model fails exactly if the model imports a name
that is no component, so all files are rendered if every component refers to components only. -/
theorem rendering_fails_iff
    (hlookup : ∀ model ∈ plan.models, ∀ name ∈ model.imports, plan.LooksUp name) :
    (∀ file ∈ plan.plannedFiles, file.kind ≠ .model → ∃ text, plan.render {} file = .ok text) ∧
      (∀ file ∈ plan.plannedFiles, file.kind = .model →
        ∃ model, plan.models[file.index]? = some model ∧
          ((∃ error, plan.render {} file = .error error) ↔
            ∃ name ∈ model.imports, name ∉ document.schemas.keys)) ∧
      ((∀ file ∈ plan.plannedFiles, ∃ text, plan.render {} file = .ok text) ↔
        ∀ entry ∈ document.schemas, ∀ target, Outline.RefersTo document entry.2 target →
          target ≠ entry.1 → target ∈ document.schemas.keys) := by
  have hapis : ∀ file ∈ plan.plannedFiles, file.kind ≠ .model →
      ∃ text, plan.render {} file = .ok text := by
    intro file hfile hkind
    obtain ⟨_, _, _, hrender⟩ := exists_api_of_mem_plannedFiles hplan hfile hkind
    exact ⟨_, hrender⟩
  refine ⟨hapis, ?_, ?_⟩
  · intro file hfile hkind
    rw [mem_plannedFiles_of_eq_model hplan hkind] at hfile
    obtain ⟨_, model, hindex, _⟩ := mem_modelFiles.mp hfile
    have hmodel := List.mem_of_getElem? hindex
    exact ⟨model, hindex, render_model_fails_iff hplan hkind hindex (hlookup model hmodel)⟩
  · rw [← forall_mem_imports_iff hplan]
    constructor
    · intro hall model hmodel name hname
      obtain ⟨index, hindex⟩ := List.mem_iff_getElem?.mp hmodel
      have hfile := mem_plannedFiles_of_getElem? hplan hindex
      have hfine := (exists_text_iff plan _).mp (hall _ hfile)
      rw [render_model_fails_iff hplan rfl hindex (hlookup model hmodel)] at hfine
      by_contra hname'
      exact hfine ⟨name, hname, hname'⟩
    · intro hall file hfile
      by_cases hkind : file.kind = .model
      · rw [mem_plannedFiles_of_eq_model hplan hkind] at hfile
        obtain ⟨_, model, hindex, _⟩ := mem_modelFiles.mp hfile
        have hmodel := List.mem_of_getElem? hindex
        rw [exists_text_iff, render_model_fails_iff hplan hkind hindex (hlookup model hmodel)]
        rintro ⟨name, hname, hmissing⟩
        exact hmissing (hall model hmodel name hname)
      · exact hapis file hfile hkind

end

/-- Baskets that hold fruit, and one kind of fruit that is not declared. -/
def fruitStand : OpenApi.Document where
  paths :=
    [("/baskets",
        { get := some
            { responses :=
                [("200",
                  { content := some
                      [("application/json",
                        { schema := some { reference := some "#/components/schemas/Pear" } })] })] } })]
  components := some
    { schemas := some
        [("Apple", { type := some (.single "string") }),
          ("Basket",
            { properties := some
                [("fruit", { reference := some "#/components/schemas/Apple" }),
                  ("within", { reference := some "#/components/schemas/Basket" })] }),
          ("Hamper",
            { allOf := some [{ reference := some "#/components/schemas/Basket" }]
              properties := some
                [("more", { items := some { reference := some "#/components/schemas/Pear" } })] })] }

theorem rendering_fails_iff_fruitStand :
    ∃ plan, ofDocument (.angular {}) fruitStand = .ok plan ∧
      (∃ text, plan.render {} ⟨"api/default-resources.ts", .resource, 0⟩ = .ok text) ∧
      ¬ (∃ error, plan.render {} ⟨"models/basket.ts", .model, 1⟩ = .error error) ∧
      ∃ error, plan.render {} ⟨"models/hamper.ts", .model, 2⟩ = .error error := by
  have hplan := ofDocument_of_lenient {} fruitStand rfl
  have hplain : ∀ model ∈ (outcome {} fruitStand).models, ∀ name ∈ model.imports,
      IsPlainStep name := by
    decide +kernel
  have hlookup : ∀ model ∈ (outcome {} fruitStand).models, ∀ name ∈ model.imports,
      (outcome {} fruitStand).LooksUp name :=
    fun model hmodel name hname => looksUp_of_isPlainStep _ (hplain model hmodel name hname)
  have himports : (outcome {} fruitStand).models.map Model.imports =
      [[], ["Apple"], ["Basket", "Apple", "Pear"]] := by
    decide +kernel
  have himport : ∀ {index : Nat} {model : Model} {names : List String},
      (outcome {} fruitStand).models[index]? = some model →
        [[], ["Apple"], ["Basket", "Apple", "Pear"]][index]? = some names →
          model.imports = names := by
    intro index model names hmodel hnames
    rw [← himports, List.getElem?_map, hmodel] at hnames
    exact Option.some.inj hnames
  have hkeys : fruitStand.schemas.keys = ["Apple", "Basket", "Hamper"] := rfl
  obtain ⟨hapis, hmodels, _⟩ := rendering_fails_iff hplan hlookup
  obtain ⟨basket, hbasket, hfine⟩ :=
    hmodels ⟨"models/basket.ts", .model, 1⟩ (by decide +kernel) rfl
  obtain ⟨hamper, hhamper, hfails⟩ :=
    hmodels ⟨"models/hamper.ts", .model, 2⟩ (by decide +kernel) rfl
  refine ⟨_, hplan, hapis _ (by decide +kernel) (by decide), ?_, ?_⟩
  · rw [hfine, himport hbasket rfl, hkeys]
    decide
  · rw [hfails, himport hhamper rfl, hkeys]
    decide

end ClientPlan.Plan

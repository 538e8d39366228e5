import ClientPlan.Artifact
import ClientPlan.Code.Api
import ClientPlan.Code.Model
import ClientPlan.Code.Stem
import ClientPlan.Plan.Encoding
import ClientPlan.Template.Reader

/-! # Rendering

The text of each planned file. Every kind of file has a built-in layout, which a template may
replace. -/

namespace ClientPlan

open Client Code

/-- A template that cannot be read or rendered, or a layout that does not find the file of an
import. -/
structure TemplateError where
  template : String
  deriving DecidableEq, Inhabited, Repr

/-- The wording of the error; what is wrong in detail is not said. -/
def TemplateError.message (error : TemplateError) : String :=
  "Template " ++ error.template ++ " failed: "

/-- The templates that replace built-in layouts. -/
structure Overrides where
  model : Option (List Template.Node) := none
  mutation : Option (List Template.Node) := none
  resource : Option (List Template.Node) := none
  deriving Inhabited

namespace Overrides

/-- The template for a kind of file. -/
def get (overrides : Overrides) : ArtifactKind → Option (List Template.Node)
  | .model => overrides.model
  | .mutation => overrides.mutation
  | .resource => overrides.resource

/-- The templates with one more. -/
def set (overrides : Overrides) (kind : ArtifactKind) (template : List Template.Node) :
    Overrides :=
  match kind with
  | .model => { overrides with model := some template }
  | .mutation => { overrides with mutation := some template }
  | .resource => { overrides with resource := some template }

end Overrides

namespace Plan

/-- The imports of models from files in the given folder, none where a file is not found. -/
def imports? (plan : Plan) (folder : String) (names : List String) : Option (List Import) :=
  names.mapM fun name => (stem? plan.models name).map fun stem => ⟨[name], folder ++ stem⟩

/-- A model file of the plan. -/
def modelFile? (plan : Plan) (model : Model) : Option ModelFile :=
  (plan.imports? "./" model.imports).map fun imports => ⟨imports, .ofModel model⟩

/-- A service file of the plan. -/
def serviceFile? (plan : Plan) (api : Api) : Option ServiceFile :=
  (plan.imports? "../models/" api.imports).map fun imports => .ofApi plan.options imports api

/-- A resource file of the plan. -/
def resourceFile? (plan : Plan) (api : Api) : Option ResourceFile :=
  (plan.imports? "../models/" api.imports).map fun imports => .ofApi imports api

/-- The lines of the built-in layout of a file. -/
def builtInLines? (plan : Plan) (file : PlannedFile) : Option (List String) :=
  match file.kind with
  | .model => plan.models[file.index]?.bind fun model =>
      (plan.modelFile? model).map ModelFile.lines
  | .mutation => plan.apis[file.index]?.bind fun api =>
      (plan.serviceFile? api).map ServiceFile.lines
  | .resource => plan.apis[file.index]?.bind fun api =>
      (plan.resourceFile? api).map ResourceFile.lines

/-- The names that a template may use: those of the plan, and what the file is about. -/
def scope (plan : Plan) (file : PlannedFile) : Template.Scope :=
  let subject :=
    match file.kind with
    | .model => plan.models[file.index]?.map fun (model : Model) => ("model", model.toJson)
    | _ => plan.apis[file.index]?.map fun (api : Api) => ("api", api.toJson)
  subject.toList ++
    [("generator", .string plan.generator), ("options", plan.options.toJson),
      ("split_resources", .bool plan.options.resourceFiles),
      ("model_files",
        .object (plan.models.map fun model => (model.name, .string model.fileName)))]

/-- The text of a planned file. -/
def render (plan : Plan) (overrides : Overrides) (file : PlannedFile) :
    Except TemplateError String :=
  let text :=
    match overrides.get file.kind with
    | some template => Template.renderAll? (plan.scope file) template
    | none => (plan.builtInLines? file).map unlines
  match text with
  | some text => .ok text
  | none => .error ⟨file.kind.templateName⟩

end Plan

end ClientPlan

import ClientPlan.Outline.Models
import ClientPlan.Outline.Operations
import ClientPlan.Plan.Api

/-! # Plans

A plan holds everything that is rendered: the models, the operations by tag, and the files to
write. -/

namespace ClientPlan

open Client

/-- A file to write: its path, its kind, and the place of its model or tag in the plan. -/
structure PlannedFile where
  path : String
  kind : ArtifactKind
  index : Nat
  deriving DecidableEq, Inhabited, Repr

/-- A plan. -/
structure Plan where
  /-- The name of the flavour that made the plan. -/
  generator : String
  options : Options
  models : List Model
  /-- One entry for each tag, in the order in which tags are first seen. -/
  apis : List Api
  tagUsage : TagUsage
  /-- Paths that are not written. -/
  skipSet : SkipSet
  deriving DecidableEq, Inhabited, Repr

namespace Plan

/-- The plan for a document. -/
def ofDocument (flavour : Flavour) (document : OpenApi.Document) :
    Except UnknownPlaceholder Plan := do
  let outlined := Outline.operations document flavour
  let models := (Outline.models document flavour).map flavour.annotateModel
  let usage := TagUsage.ofOperations outlined
  let ops ← outlined.mapM flavour.annotateOperation
  let names := models.map Model.name
  return {
    generator := flavour.name
    options := flavour.options
    models := models
    apis := (groupByTag ops).map fun group => Api.ofGroup flavour names group.1 group.2
    tagUsage := usage
    skipSet := flavour.skipSet usage }

/-- The files of the models. -/
def modelFiles (plan : Plan) : List PlannedFile :=
  plan.models.zipIdx.map fun (model, index) =>
    ⟨ArtifactKind.model.pathFor model.fileName, .model, index⟩

/-- The files of the tags, kind by kind for each. -/
def apiFiles (plan : Plan) : List PlannedFile :=
  plan.apis.zipIdx.flatMap fun (api, index) =>
    (ArtifactKind.ofTag plan.options).map fun kind => ⟨kind.pathFor api.fileName, kind, index⟩

/-- The files to write: models first, and none that is skipped. -/
def plannedFiles (plan : Plan) : List PlannedFile :=
  (plan.modelFiles ++ plan.apiFiles).filter fun file => !plan.skipSet.contains file.path

/-- What is generated for a tag. -/
def api? (plan : Plan) (tag : String) : Option Api :=
  plan.apis.find? fun api => api.tag = tag

/-- The model with the given name. -/
def model? (plan : Plan) (name : String) : Option Model :=
  plan.models.find? fun model => model.name = name

end Plan

end ClientPlan

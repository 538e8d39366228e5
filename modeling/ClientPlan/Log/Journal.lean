import ClientPlan.Log.Record
import ClientPlan.Plan.Basic

/-! # The journal of a run

The records of reading, planning, rendering and writing. -/

namespace ClientPlan.Log

open Client

namespace Record

/-- Options are about to be read from a file. -/
def loadingOptions (path : String) : Record :=
  ⟨.debug, "ngen_core::options", "Loading generator options.", [("path", path)]⟩

/-- A document is about to be read from a file. -/
def readingDocument (path : String) : Record :=
  ⟨.debug, "ngen_cli::cli::common", "Reading OpenAPI document.", [("path", path)]⟩

/-- How a flag is written. -/
def flagText (value : Bool) : String :=
  if value then "true" else "false"

/-- Planning begins with the given options. -/
def initialized (generator : String) (options : Options) : Record :=
  ⟨.info, "ngen_core::options", "Generator initialized.",
    [("generator", quoted generator),
      ("use_reactive_resource", flagText options.useReactiveResource),
      ("use_injected_dependency", flagText options.useInjectedDependency),
      ("split_resource_artifacts", flagText options.splitResourceArtifacts),
      ("readonly_output_models", flagText options.readonlyOutputModels),
      ("strict_path_parameters", flagText options.strictPathParameters)]⟩

/-- The operations and models of a document are known. -/
def outlined (operations models : Nat) : Record :=
  ⟨.debug, "ngen_core::lower", "Lowered OpenAPI document.",
    [("operations", toString operations), ("models", toString models)]⟩

/-- The usage of the tags is known. -/
def analyzed (tags : Nat) : Record :=
  ⟨.debug, "ngen_core::tag_usage", "Analyzed tag usage.", [("tags", toString tags)]⟩

/-- The files that are left out are known. -/
def skipping (skipped : Nat) : Record :=
  ⟨.debug, "ngen_core::routing", "Computed artifact skip set.", [("skipped", toString skipped)]⟩

/-- The name of a placeholder is copied, because no path parameter answers to it. -/
def unresolved (operationId path : String) (placeholders : List String) : Record :=
  ⟨.warn, "ngen_core::operation",
    "Path placeholder has no matching path parameter; copying its name.",
    [("operation_id", operationId), ("path", path), ("unresolved", quotedList placeholders)]⟩

/-- An operation gets another id, because its own is taken in the tag. -/
def renamed (tag operationId newId : String) : Record :=
  ⟨.warn, "ngen_core::generator", "Duplicate operationId in tag, renaming.",
    [("tag", tag), ("operation_id", operationId), ("renamed", newId)]⟩

/-- The operations are grouped. -/
def grouped (tags : Nat) : Record :=
  ⟨.debug, "ngen_core::generator", "Grouped operations by tag.", [("tags", toString tags)]⟩

/-- The plan is made. -/
def ready (models apis skipped : Nat) : Record :=
  ⟨.info, "ngen_core::generator", "Generation plan ready.",
    [("models", toString models), ("apis", toString apis), ("skipped", toString skipped)]⟩

/-- A template replaces a built-in layout. -/
def overriding (template path : String) : Record :=
  ⟨.debug, "ngen_cli::render", "Using template override.",
    [("template", quoted template), ("path", path)]⟩

/-- How a kind of file is written. -/
def kindText : ArtifactKind → String
  | .model => "Model"
  | .mutation => "Mutation"
  | .resource => "Resource"

/-- A file is written. -/
def wrote (path : String) (kind : ArtifactKind) : Record :=
  ⟨.debug, "ngen_cli::render", "Wrote artifact.", [("path", path), ("kind", kindText kind)]⟩

/-- All files are written. -/
def rendered (written skipped : Nat) (output : String) : Record :=
  ⟨.info, "ngen_cli::render", "Rendered generation plan.",
    [("written", toString written), ("skipped", toString skipped), ("output", output)]⟩

end Record

/-- The records of annotating operations up to the first failure, and the operations unless there is
one. -/
def annotating (flavour : Flavour) : List Operation → List Record × Option (List Operation)
  | [] => ([], some [])
  | op :: rest =>
    match flavour.annotateOperation op with
    | .error _ => ([], none)
    | .ok annotated =>
      let (records, others) := annotating flavour rest
      let placeholders := annotated.notes.unresolvedPlaceholders
      (if placeholders.isEmpty then records
        else .unresolved annotated.operationId annotated.rawPath placeholders :: records,
        others.map (annotated :: ·))

/-- The records of joining operations to the groups of tags. -/
def renamings (groups : Plan.Groups) : List (String × Operation) → List Record
  | [] => []
  | (tag, op) :: rest =>
    let joined := Plan.member ((groups.find? tag).getD []) op
    let records := renamings (Plan.join groups tag op) rest
    if joined.operationId = op.operationId then records
    else .renamed tag op.operationId joined.operationId :: records

/-- The records of planning a document. -/
def planning (flavour : Flavour) (document : OpenApi.Document) : List Record :=
  let outlined := Outline.operations document flavour
  let models := Outline.models document flavour
  let usage := TagUsage.ofOperations outlined
  let skipped := (flavour.skipSet usage).length
  let (warnings, annotated) := annotating flavour outlined
  [.initialized flavour.name flavour.options, .outlined outlined.length models.length,
    .analyzed usage.length, .skipping skipped] ++ warnings ++
    match annotated with
    | none => []
    | some ops =>
      let tags := (Plan.groupByTag ops).length
      renamings [] (ops.flatMap fun op => op.tags.map fun tag => (tag, op)) ++
        [.grouped tags, .ready models.length tags skipped]

end ClientPlan.Log

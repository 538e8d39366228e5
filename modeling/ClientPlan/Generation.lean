import ClientPlan.Files.Access
import ClientPlan.Json.Printer
import ClientPlan.Log.Journal
import ClientPlan.OpenApi.Reading
import ClientPlan.Options.Reading
import ClientPlan.Rendering

/-! # Generation

From files to files: options and a document are read, the document is planned, and the planned files
are rendered and written one by one. -/

namespace ClientPlan

open Files

/-- Why a run fails. -/
inductive Failure where
  | options (error : OptionsError)
  | document (error : OpenApi.DocumentError)
  | placeholder (error : UnknownPlaceholder)
  | read (path : String) (fault : Fault)
  | write (path : String) (fault : Fault)
  | template (error : TemplateError)
  deriving DecidableEq, Inhabited, Repr

/-- The wording of a failure. -/
def Failure.message : Failure → String
  | options error => error.message
  | document error => error.message
  | placeholder error => error.message
  | read path fault => "Failed to read " ++ path ++ ": " ++ fault.message
  | write path fault => "Failed to write " ++ path ++ ": " ++ fault.message
  | template error => error.message

/-- The plan of a document that is given as text. -/
def Plan.ofText (options : Options) (text : String) : Except Failure Plan :=
  match OpenApi.Document.ofText text with
  | .error error => .error (.document error)
  | .ok document => (ofDocument (.angular options) document).mapError .placeholder

/-- Where the document and the options of a run come from. -/
structure Inputs where
  document : String
  /-- The option file. -/
  config : Option String := none
  /-- Pairs that override options, in order. -/
  properties : List (String × String) := []
  deriving DecidableEq, Inhabited, Repr

section

variable {m : Type → Type} [Monad m] [Access m]

/-- The options of a run. -/
def Inputs.readOptions (inputs : Inputs) : ExceptT Failure m Options := do
  let loaded ←
    match inputs.config with
    | none => pure {}
    | some path =>
      log (.loadingOptions path)
      match ← readText path with
      | .error fault => throw (.options (.unreadable path fault.message))
      | .ok text => ExceptT.mk (pure ((Options.ofToml text).mapError .options))
  return loaded.applyAll inputs.properties

/-- The text of the document of a run. -/
def Inputs.readSource (inputs : Inputs) : ExceptT Failure m String := do
  log (.readingDocument inputs.document)
  match ← readText inputs.document with
  | .error fault => throw (.read inputs.document fault)
  | .ok text => return text

/-- The plan of a run: options are read before the document. -/
def Inputs.readPlan (inputs : Inputs) : ExceptT Failure m Plan := do
  let options ← inputs.readOptions
  let source ← inputs.readSource
  -- A text that is no document is not planned, and leaves no record of planning.
  if let .ok document := OpenApi.Document.ofText source then
    for record in Log.planning (.angular options) document do
      log record
  ExceptT.mk (pure (Plan.ofText options source))

/-- Reads the template for a kind of file from a folder, if it is there. -/
def readOverride (folder : String) (overrides : Overrides) (kind : ArtifactKind) :
    ExceptT Failure m Overrides := do
  let path := joinPath folder kind.templateName
  if ← isFile path then
    log (.overriding kind.templateName path)
    match ← readText path with
    | .error fault => throw (.read path fault)
    | .ok text =>
      match Template.read? text with
      | some template => return overrides.set kind template
      | none => throw (.template ⟨kind.templateName⟩)
  else return overrides

/-- Reads the templates in a folder. -/
def readOverrides (folder : Option String) : ExceptT Failure m Overrides :=
  match folder with
  | none => pure {}
  | some folder =>
    [ArtifactKind.model, .mutation, .resource].foldlM (readOverride folder) {}

/-- Renders a planned file and writes it below the output folder. The outcome is its path. -/
def Plan.writeFile (plan : Plan) (overrides : Overrides) (output : String) (file : PlannedFile) :
    ExceptT Failure m String := do
  let text ← ExceptT.mk (pure ((plan.render overrides file).mapError .template))
  let path := joinPath output file.path
  let above := folders path
  if let .error fault ← ensureFolders above then
    throw (.write (above.headD "") fault)
  if let .error fault ← writeText path text then
    throw (.write path fault)
  log (.wrote path file.kind)
  return path

/-- Renders and writes the planned files one by one. The outcome is their paths. -/
def Plan.writeAll (plan : Plan) (overrides : Overrides) (output : String) :
    ExceptT Failure m (List String) := do
  let written ← plan.plannedFiles.mapM (plan.writeFile overrides output)
  log (.rendered written.length plan.skipSet.length output)
  return written

/-- What a run has written and left out. -/
structure Summary where
  /-- The planned files, in order. -/
  planned : List PlannedFile
  /-- Their paths below the output folder. -/
  written : List String
  skipped : SkipSet
  deriving DecidableEq, Inhabited, Repr

/-- Reads, plans, renders and writes. -/
def Inputs.generate (inputs : Inputs) (output : String) (templates : Option String) :
    ExceptT Failure m Summary := do
  let plan ← inputs.readPlan
  let overrides ← readOverrides templates
  let written ← plan.writeAll overrides output
  return ⟨plan.plannedFiles, written, plan.skipSet⟩

/-- The plan of a run as JSON text, on one line or over several. -/
def Inputs.planText (inputs : Inputs) (compact : Bool) : ExceptT Failure m String := do
  let plan ← inputs.readPlan
  return if compact then plan.toJson.compact else plan.toJson.pretty

end

end ClientPlan

import ClientPlan.Annotation
import ClientPlan.Artifact
import ClientPlan.Client.Model
import ClientPlan.Name.Slug
import ClientPlan.Name.Tag

/-! # Flavours

What one kind of client decides for itself: how things and files are named, how operations and
models are annotated, and which files are left out. -/

namespace ClientPlan

open Client

/-- The decisions of one kind of client. -/
structure Flavour where
  /-- The name reported in the plan. -/
  name : String
  options : Options
  /-- The method name, from the declared id or from method and path. -/
  operationId : Option String → Method → String → String
  /-- The form of a tag by which operations are grouped. -/
  tag : String → String
  /-- The file stem of a model. -/
  modelFile : String → String
  /-- The file stem of the files of a tag. -/
  apiFile : String → String
  /-- The service class of a tag. -/
  apiClass : String → String
  /-- The files left out. -/
  skipSet : TagUsage → SkipSet
  annotateOperation : Operation → Except UnknownPlaceholder Operation
  annotateModel : Model → Model

namespace Flavour

/-- The method name of an operation: its declared id in normal form, or one made from its verb and
path. -/
def operationName (declared : Option String) (method : Method) (path : String) : String :=
  match declared with
  | some id => Name.operationId id
  | none => Name.synthesizedId method.verb path

/-- The Angular client: resources for retrievals, injectable services for mutations, read-only
models where they are received. -/
def angular (options : Options) : Flavour where
  name := "angular"
  options := options
  operationId := operationName
  tag := Name.tag
  modelFile := Name.slug
  apiFile := Name.slug
  apiClass := Name.apiClass
  skipSet := fun usage => SkipSet.ofUsage usage options Name.slug
  annotateOperation := fun op => op.annotate options
  annotateModel := fun model => model.annotate options.readonlyOutputModels

/-- A client that leaves no file out and keeps models as the document declares them, in files
whose stems begin with `dto.`. -/
def keepEverything (options : Options) : Flavour :=
  { angular options with
    name := "keep-everything"
    modelFile := fun name => "dto." ++ Text.lowered name
    skipSet := fun _ => []
    annotateModel := id }

end Flavour

end ClientPlan

import ClientPlan.Options
import ClientPlan.TagUsage

/-! # Artifacts

The kinds of file that a plan can hold, where each goes, and which are left out. -/

namespace ClientPlan

/-- A kind of file. -/
inductive ArtifactKind where
  /-- The declaration of a model. -/
  | model
  /-- The service of a tag. -/
  | mutation
  /-- The resources of a tag. -/
  | resource
  deriving DecidableEq, Inhabited, Repr

namespace ArtifactKind

/-- The word for a kind. -/
def word : ArtifactKind → String
  | model => "model"
  | mutation => "mutation"
  | resource => "resource"

/-- The folder of the files of a kind. -/
def folder : ArtifactKind → String
  | model => "models"
  | mutation => "api"
  | resource => "api"

/-- What follows the stem in the name of a file. -/
def suffix : ArtifactKind → String
  | model => ".ts"
  | mutation => "-api.ts"
  | resource => "-resources.ts"

/-- The name of the template that can replace the layout of a kind. -/
def templateName : ArtifactKind → String
  | model => "model.ts.tera"
  | mutation => "api-service.ts.tera"
  | resource => "api-resource.ts.tera"

/-- The path of a file with the given stem. -/
def pathFor (kind : ArtifactKind) (stem : String) : String :=
  kind.folder ++ "/" ++ stem ++ kind.suffix

/-- The kinds of file that each tag has. -/
def ofTag (options : Options) : List ArtifactKind :=
  if options.resourceFiles then [mutation, resource] else [mutation]

end ArtifactKind

/-- Paths that are not written, sorted and each once. -/
abbrev SkipSet := List String

namespace SkipSet

/-- Adds a path. -/
def insert (path : String) : SkipSet → SkipSet
  | [] => [path]
  | first :: rest =>
    if path = first then first :: rest
    else if path < first then path :: first :: rest
    else first :: insert path rest

/-- The paths left out for one tag: its service if it has no mutation, and its resources if it has
no retrieval and resource files exist. -/
def ofTag (options : Options) (stem : String) (usage : Usage) : List String :=
  (if !usage.hasRetrieval && !usage.hasMutation then []
    else (if usage.hasMutation then [] else [ArtifactKind.mutation.pathFor stem]) ++
      (if options.resourceFiles && !usage.hasRetrieval then [ArtifactKind.resource.pathFor stem]
        else []))

/-- The paths left out, given the stem of each tag. -/
def ofUsage (usage : TagUsage) (options : Options) (stem : String → String) : SkipSet :=
  (usage.flatMap fun entry => ofTag options (stem entry.1) entry.2).foldl
    (fun skipped path => insert path skipped) []

end SkipSet

end ClientPlan

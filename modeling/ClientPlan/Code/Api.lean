import ClientPlan.Code.Fetch
import ClientPlan.Plan.Api

/-! # Files of tags

The service file of a tag holds a class with a method for each operation. Where resources go into
files of their own, the resource file holds a function for each retrieval. -/

namespace ClientPlan.Code

open Client

/-- A method of a service class. -/
inductive Member where
  | resource (item : Resource)
  | request (item : Request)
  deriving DecidableEq, Inhabited, Repr

namespace Member

/-- The name of a method. -/
def name : Member → String
  | resource item => item.name
  | request item => item.name

/-- The lines of a method, after an empty one. -/
def lines : Member → List String
  | resource item => item.methodLines
  | request item => item.lines

/-- The method of an operation in a service class; `split` says that resources go into files of
their own. -/
def ofOperation? (split : Bool) (op : Operation) : Option Member :=
  if op.notes.usesResourcePattern then
    if split then none else some (resource (.ofOperation callType op))
  else some (request (.ofOperation op))

end Member

/-- A service file. -/
structure ServiceFile where
  /-- The HTTP client is injected, and not a parameter of the constructor. -/
  injected : Bool
  /-- The file imports what makes resources. -/
  fetches : Bool
  imports : List Import
  interfaces : List QueryInterface
  className : String
  members : List Member
  deriving DecidableEq, Inhabited, Repr

/-- The service file of a tag, given the imports of its models. -/
def ServiceFile.ofApi (options : Options) (imports : List Import) (api : Api) : ServiceFile :=
  let split := options.resourceFiles
  { injected := options.useInjectedDependency
    fetches := !split && api.hasGetOperations && options.useReactiveResource
    imports := imports
    interfaces :=
      (api.operations.filter fun op => !split || !op.notes.usesResourcePattern).filterMap
        queryInterface?
    className := api.className
    members := api.operations.filterMap (Member.ofOperation? split) }

/-- The lines of a service file. -/
def ServiceFile.lines (file : ServiceFile) : List String :=
  [header,
    Import.text ⟨"Injectable" :: (if file.injected then ["inject"] else []), "@angular/core"⟩,
    Import.text ⟨"HttpClient" :: (if file.fetches then ["httpResource"] else []),
      "@angular/common/http"⟩,
    Import.text ⟨["Observable"], "rxjs"⟩] ++
    file.imports.map Import.text ++ file.interfaces.flatMap QueryInterface.lines ++
    ["", "@Injectable(" ++ braced "providedIn: 'root'" ++ ")",
      "export class " ++ file.className ++ " \x7b",
      if file.injected then "  private readonly http = inject(HttpClient);"
      else "  constructor(private readonly http: HttpClient) \x7b\x7d"] ++
    file.members.flatMap Member.lines ++ ["", "\x7d"]

/-- A resource file: each function follows the interface of its query parameters. -/
structure ResourceFile where
  imports : List Import
  functions : List (Option QueryInterface × Resource)
  deriving DecidableEq, Inhabited, Repr

/-- The resource file of a tag, given the imports of its models. -/
def ResourceFile.ofApi (imports : List Import) (api : Api) : ResourceFile :=
  { imports := imports
    functions := api.getOperations.map fun op =>
      (queryInterface? op, .ofOperation signalType op) }

/-- The lines of a resource file. -/
def ResourceFile.lines (file : ResourceFile) : List String :=
  [header, Import.text ⟨["Signal"], "@angular/core"⟩,
    Import.text ⟨["httpResource"], "@angular/common/http"⟩] ++
    file.imports.map Import.text ++
    file.functions.flatMap fun item =>
      item.1.elim [] QueryInterface.lines ++ item.2.functionLines

end ClientPlan.Code

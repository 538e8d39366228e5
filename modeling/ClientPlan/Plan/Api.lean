import ClientPlan.Flavour

/-! # Operations by tag

Each tag of a plan has its operations, with method names that are unique within the tag, and the
models that their types mention. -/

namespace ClientPlan

open Client

namespace Plan

/-- An id with a counter behind it. -/
def counted (id : String) (counter : Nat) : String :=
  id ++ "_" ++ toString counter

/-- The id with the first counter that makes it differ from those taken. One of as many counters
as there are ids taken, and one more, is always free. -/
def freeId (taken : List String) (id : String) : String :=
  match (List.range (taken.length + 1)).find? fun n => !taken.contains (counted id n) with
  | some n => counted id n
  | none => id

/-- The operation under another id, with the name of its query interface in step. -/
def renamed (op : Operation) (id : String) : Operation :=
  { op with
    operationId := id
    notes := { op.notes with
      queryParamsInterfaceName :=
        op.notes.queryParamsInterfaceName.map fun _ => Name.queryInterface id } }

/-- The ids of operations. -/
def ids (ops : List Operation) : List String :=
  ops.map Operation.operationId

/-- The operation as it joins a group: renamed if its id is taken. -/
def member (group : List Operation) (op : Operation) : Operation :=
  if (ids group).contains op.operationId then renamed op (freeId (ids group) op.operationId)
  else op

/-- The operations of each tag, in the order in which tags are first seen. -/
abbrev Groups := OrderedMap (List Operation)

/-- Adds an operation to the group of a tag. -/
def join (groups : Groups) (tag : String) (op : Operation) : Groups :=
  groups.update tag [] fun group => group ++ [member group op]

/-- Adds an operation to the group of each of its tags. -/
def joinAll (groups : Groups) (op : Operation) : Groups :=
  op.tags.foldl (fun groups tag => join groups tag op) groups

/-- The operations by tag. -/
def groupByTag (ops : List Operation) : Groups :=
  ops.foldl joinAll []

/-- Characters that an identifier may begin with. -/
def startsWord (c : Char) : Bool :=
  Text.isAsciiUpper c || Text.isAsciiLower c || c = '_'

/-- The identifiers in a type, from left to right; `word` is the one being read, in reverse. -/
def wordsAfter (word : List Char) : List Char → List String
  | [] => if word.isEmpty then [] else [String.ofList word.reverse]
  | c :: rest =>
    if startsWord c || (!word.isEmpty && Text.isAsciiDigit c) then wordsAfter (c :: word) rest
    else (if word.isEmpty then [] else [String.ofList word.reverse]) ++ wordsAfter [] rest

/-- The identifiers in a type, from left to right. -/
def words (type : String) : List String :=
  wordsAfter [] type.toList

/-- The types of an operation that generated code mentions. -/
def mentionedTypes (op : Operation) : List String :=
  (op.pathParams ++ op.queryParams ++ op.headerParams).map Parameter.dataType ++
    (op.body.map Body.dataType).toList ++ [op.responseType]

/-- The models that the types of operations mention, each at its first place. -/
def mentionedModels (models : List String) (ops : List Operation) : List String :=
  ((ops.flatMap mentionedTypes).flatMap words).foldl
    (fun found word =>
      if models.contains word && !found.contains word then found ++ [word] else found) []

end Plan

/-- What is generated for one tag. -/
structure Api where
  tag : String
  /-- The name of the service class. -/
  className : String
  /-- The stem shared by the files of the tag. -/
  fileName : String
  operations : List Operation
  getOperations : List Operation
  mutationOperations : List Operation
  hasGetOperations : Bool
  hasMutationOperations : Bool
  /-- The models that types mention. -/
  imports : List String
  deriving DecidableEq, Inhabited, Repr

/-- What is generated for a tag with the given operations. -/
def Api.ofGroup (flavour : Flavour) (models : List String) (tag : String)
    (ops : List Operation) : Api :=
  let (gets, mutations) := Operation.splitByKind ops
  { tag := tag
    className := flavour.apiClass tag
    fileName := flavour.apiFile tag
    operations := ops
    getOperations := gets
    mutationOperations := mutations
    hasGetOperations := !gets.isEmpty
    hasMutationOperations := !mutations.isEmpty
    imports := Plan.mentionedModels models ops }

end ClientPlan

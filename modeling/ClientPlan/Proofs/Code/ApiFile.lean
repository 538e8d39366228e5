import Mathlib.Data.List.Infix
import ClientPlan.Code.Api
import ClientPlan.Proofs.Annotation

/-! # What a file of a tag declares

A file of a tag declares interfaces and functions that call operations. Each operation has one form
that options call for and one kind of file where it stands, and a file of that kind holds these
forms of its operations, in order, and no others.
-/

namespace ClientPlan.Code

open Client

/-! ## Callers -/

/-- A function that calls an operation, as a file of a tag declares it. -/
inductive Caller where
  /-- A resource function of a resource file. -/
  | function (item : Resource)
  /-- A method of a service class. -/
  | member (item : Member)
  deriving DecidableEq, Inhabited, Repr

namespace Caller

def name : Caller → String
  | function item => item.name
  | member item => item.name

def lines : Caller → List String
  | function item => item.functionLines
  | member item => item.lines

/-- The query interface that the signature names. -/
def query : Caller → Option String
  | function item => item.query
  | member (.resource item) => item.query
  | member (.request item) => item.query

def params : Caller → List Param
  | function item => item.pathParams ++ (item.queryParam? signalType).toList
  | member (.resource item) => item.pathParams ++ (item.queryParam? callType).toList
  | member (.request item) => item.pathParams ++ item.body.toList ++ item.queryParam?.toList

def consts : Caller → List Const
  | function item => item.consts
  | member (.resource item) => item.consts
  | member (.request item) => item.consts

/-- The body of the template literal of the address. -/
def url : Caller → String
  | function item => item.url
  | member (.resource item) => item.url
  | member (.request item) => item.url

/-- How the address refers to parameters. -/
def dialect : Caller → PathTemplate.Dialect
  | function _ => .value
  | member (.resource _) => .value
  | member (.request _) => .plain

/-- The names that the body may use: parameters, and constants that it declares. -/
def scope (caller : Caller) : List String :=
  caller.params.map Param.name ++ caller.consts.map Const.name

/-- The functions that may call an operation. -/
def forms (op : Operation) : List Caller :=
  [function (.ofOperation signalType op), member (.resource (.ofOperation callType op)),
    member (.request (.ofOperation op))]

/-- The function that options call for: for a `GET` a resource function where resource files
exist, else a resource method where retrievals become resources; in all other cases a request. -/
def form (options : Options) (op : Operation) : Caller :=
  if op.method = .get ∧ options.resourceFiles = true then
    function (.ofOperation signalType op)
  else if op.method = .get ∧ options.useReactiveResource = true then
    member (.resource (.ofOperation callType op))
  else member (.request (.ofOperation op))

/-- The kind of file where the operation is called. -/
def home (options : Options) (op : Operation) : ArtifactKind :=
  if op.method = .get ∧ options.resourceFiles = true then .resource else .mutation

theorem home_mem_ofTag (options : Options) (op : Operation) :
    home options op ∈ ArtifactKind.ofTag options := by
  unfold home
  split
  next hsplit => simp [ArtifactKind.ofTag, hsplit.2]
  next => unfold ArtifactKind.ofTag; split <;> simp

section

variable {op : Operation} {caller : Caller}

theorem mem_forms :
    caller ∈ forms op ↔ caller = function (.ofOperation signalType op) ∨
      caller = member (.resource (.ofOperation callType op)) ∨
        caller = member (.request (.ofOperation op)) := by
  simp only [forms, List.mem_cons, List.not_mem_nil, or_false]

theorem form_mem_forms (options : Options) (op : Operation) : form options op ∈ forms op := by
  rw [mem_forms, form]
  split
  next => exact .inl rfl
  next =>
    split
    next => exact .inr (.inl rfl)
    next => exact .inr (.inr rfl)

/-- Retrievals that become resources are called by a resource, whatever the file; all else is a
request. -/
theorem form_cases (options : Options) (op : Operation) :
    ((op.method = .get ∧ options.useReactiveResource = true) ∧
        (form options op = function (.ofOperation signalType op) ∨
          form options op = member (.resource (.ofOperation callType op)))) ∨
      ¬ (op.method = .get ∧ options.useReactiveResource = true) ∧
        form options op = member (.request (.ofOperation op)) := by
  unfold form Options.resourceFiles
  by_cases hget : op.method = .get <;> cases options.useReactiveResource <;>
    cases options.splitResourceArtifacts <;> simp [hget]

theorem query_of_mem_forms (hcaller : caller ∈ forms op) : caller.query = queryName? op := by
  rw [mem_forms] at hcaller
  rcases hcaller with rfl | rfl | rfl <;> rfl

theorem url_of_mem_forms {options : Options} (hop : op.IsNoted options)
    (hcaller : caller ∈ forms op) : caller.url = (op.template caller.dialect).text := by
  rw [mem_forms] at hcaller
  rcases hcaller with rfl | rfl | rfl
  · exact hop.valuePathTemplate
  · exact hop.valuePathTemplate
  · exact hop.plainPathTemplate

end

/-! ## The names in scope -/

theorem name_signalConst (param : Parameter) :
    (signalConst param).name =
      PathTemplate.Dialect.value.variableFor param.identifier param.isNumeric := by
  unfold signalConst PathTemplate.Dialect.variableFor
  cases param.isNumeric <;> rfl

section

variable {op : Operation} {param : Parameter} (hparam : param ∈ op.pathParams)

include hparam

theorem variableFor_value_mem_consts (readType : String → String) :
    PathTemplate.Dialect.value.variableFor param.identifier param.isNumeric ∈
      (Resource.ofOperation readType op).consts.map Const.name := by
  rw [Resource.ofOperation, List.map_map]
  exact List.mem_map.mpr ⟨param, hparam, name_signalConst param⟩

/-- A request has a numeric parameter as it is, and declares the encoded text of any other. -/
theorem variableFor_plain_mem :
    PathTemplate.Dialect.plain.variableFor param.identifier param.isNumeric ∈
      (Request.ofOperation op).pathParams.map Param.name ++
        (Request.ofOperation op).consts.map Const.name := by
  rw [List.mem_append, Request.ofOperation, List.map_map]
  cases hnumeric : param.isNumeric with
  | true => exact .inl (List.mem_map.mpr ⟨param, hparam, rfl⟩)
  | false =>
      refine .inr (List.mem_map.mpr ⟨encoded param.identifier param.identifier, ?_, rfl⟩)
      refine List.mem_map.mpr ⟨param, List.mem_filter.mpr ⟨hparam, ?_⟩, rfl⟩
      rw [hnumeric, Bool.not_false]

/-- A function has the variable that stands for a path parameter among its own names. -/
theorem variableFor_mem_scope {caller : Caller} (hcaller : caller ∈ forms op) :
    caller.dialect.variableFor param.identifier param.isNumeric ∈ caller.scope := by
  rw [mem_forms] at hcaller
  rw [scope, List.mem_append]
  rcases hcaller with rfl | rfl | rfl
  · exact .inr (variableFor_value_mem_consts hparam signalType)
  · exact .inr (variableFor_value_mem_consts hparam callType)
  · rcases List.mem_append.mp (variableFor_plain_mem hparam) with hmem | hmem
    · rw [params, List.append_assoc, List.map_append]
      exact .inl (List.mem_append_left _ hmem)
    · exact .inr hmem

end

end Caller

/-! ## Files -/

/-- A file of a tag. -/
inductive ApiFile where
  | service (file : ServiceFile)
  | resources (file : ResourceFile)
  deriving DecidableEq, Inhabited, Repr

namespace ApiFile

def lines : ApiFile → List String
  | service file => file.lines
  | resources file => file.lines

def text (file : ApiFile) : String :=
  unlines file.lines

/-- The query interfaces that the file declares. -/
def interfaces : ApiFile → List QueryInterface
  | service file => file.interfaces
  | resources file => file.functions.filterMap Prod.fst

/-- The functions that the file declares. -/
def callers : ApiFile → List Caller
  | service file => file.members.map .member
  | resources file => file.functions.map fun item => .function item.2

-- `List.infix_flatMap_of_mem` has this for lists of one type only.
theorem infix_flatMap {α β : Type} (f : α → List β) {x : α} {xs : List α} (hx : x ∈ xs) :
    f x <:+: xs.flatMap f :=
  List.infix_of_mem_flatten (List.mem_map_of_mem hx)

theorem infix_resourceFile_lines {file : ResourceFile} {item : Option QueryInterface × Resource}
    (hitem : item ∈ file.functions) :
    item.1.elim [] QueryInterface.lines ++ item.2.functionLines <:+: file.lines := by
  have hfunctions := infix_flatMap (fun item : Option QueryInterface × Resource =>
    item.1.elim [] QueryInterface.lines ++ item.2.functionLines) hitem
  exact hfunctions.trans (List.suffix_append _ _).isInfix

/-- What a file is said to declare stands in its text. -/
theorem lines_infix_of_mem_callers {file : ApiFile} {caller : Caller}
    (hcaller : caller ∈ file.callers) : caller.lines <:+: file.lines := by
  cases file with
  | service file =>
      obtain ⟨member, hmember, rfl⟩ := List.mem_map.mp hcaller
      have hmembers : file.members.flatMap Member.lines <:+: file.lines :=
        List.infix_append _ _ _
      exact (infix_flatMap Member.lines hmember).trans hmembers
  | resources file =>
      obtain ⟨item, hitem, rfl⟩ := List.mem_map.mp hcaller
      exact (List.suffix_append _ _).isInfix.trans (infix_resourceFile_lines hitem)

end ApiFile

/-! ## The files of a tag -/

/-- The operations of a tag that are called in a kind of file. -/
def calledIn (options : Options) (kind : ArtifactKind) (ops : List Operation) :
    List Operation :=
  ops.filter fun op => Caller.home options op = kind

/-- A file of a kind declares the functions and the query interfaces of the operations that are
called there, in order. -/
structure ApiFile.Declares (file : ApiFile) (options : Options) (kind : ArtifactKind)
    (ops : List Operation) : Prop where
  callers : file.callers = (calledIn options kind ops).map (Caller.form options)
  interfaces : file.interfaces = (calledIn options kind ops).filterMap queryInterface?

theorem map_ofOperation? {options : Options} {op : Operation} (hop : op.IsNoted options) :
    (Member.ofOperation? options.resourceFiles op).map Caller.member =
      if Caller.home options op = .mutation then some (Caller.form options op) else none := by
  rw [Member.ofOperation?, hop.usesResourcePattern, op.isRetrieval_eq, Caller.home, Caller.form,
    Options.resourceFiles]
  by_cases hget : op.method = .get <;> cases options.useReactiveResource <;>
    cases options.splitResourceArtifacts <;> simp [hget]

/-- The interfaces of a service are those of the operations that it calls. -/
theorem split_or_not_resource_eq {options : Options} {op : Operation} (hop : op.IsNoted options) :
    (!options.resourceFiles || !op.notes.usesResourcePattern) =
      decide (Caller.home options op = .mutation) := by
  rw [hop.usesResourcePattern, op.isRetrieval_eq, Caller.home, Options.resourceFiles]
  by_cases hget : op.method = .get <;> cases options.useReactiveResource <;>
    cases options.splitResourceArtifacts <;> simp [hget]

theorem declares_service {options : Options} {api : Api}
    (hnoted : ∀ op ∈ api.operations, op.IsNoted options) (imports : List Import) :
    (ApiFile.service (.ofApi options imports api)).Declares options .mutation api.operations where
  callers := by
    rw [ApiFile.callers, ServiceFile.ofApi, List.map_filterMap, calledIn,
      ← List.filterMap_eq_map, List.filterMap_filter]
    refine List.filterMap_congr fun op hop => ?_
    rw [map_ofOperation? (hnoted op hop)]
    simp
  interfaces := by
    rw [ApiFile.interfaces, ServiceFile.ofApi, calledIn]
    exact congrArg _ (List.filter_congr fun op hop => split_or_not_resource_eq (hnoted op hop))

theorem declares_resources {options : Options} {api : Api} (hfiles : options.resourceFiles = true)
    (hgets : api.getOperations = api.operations.filter fun op => op.method = .get)
    (imports : List Import) :
    (ApiFile.resources (.ofApi imports api)).Declares options .resource api.operations := by
  have hcalled : calledIn options .resource api.operations = api.getOperations := by
    rw [hgets, calledIn]
    refine List.filter_congr fun op _ => ?_
    by_cases hget : op.method = .get <;> simp [Caller.home, hget, hfiles]
  refine ⟨?_, ?_⟩
  · rw [ApiFile.callers, ResourceFile.ofApi, List.map_map, hcalled, hgets]
    refine List.map_congr_left fun op hop => ?_
    have hget : op.method = .get := by simpa using (List.mem_filter.mp hop).2
    rw [Function.comp_apply, Caller.form, if_pos ⟨hget, hfiles⟩]
  · rw [ApiFile.interfaces, ResourceFile.ofApi, List.filterMap_map, hcalled]
    rfl

end ClientPlan.Code

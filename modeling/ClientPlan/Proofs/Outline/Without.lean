import ClientPlan.Proofs.Plan.Isolation

/-! # Documents without the parameters of some places

Parameters that are sent in one place override each other and no others. Where a document loses all
parameters of some places, each of its operations loses them and stays as it is otherwise.
-/

namespace ClientPlan

open Client

namespace OpenApi

variable (places : List Location)

/-- Parameters without those that are sent in the given places. -/
def dropSentIn (params : Option (List Parameter)) : Option (List Parameter) :=
  params.map fun params => params.filter fun param => Location.ofWord param.location ∉ places

def Operation.without (op : Operation) : Operation :=
  { op with parameters := dropSentIn places op.parameters }

def PathItem.without (item : PathItem) : PathItem where
  get := item.get.map (·.without places)
  put := item.put.map (·.without places)
  post := item.post.map (·.without places)
  delete := item.delete.map (·.without places)
  options := item.options.map (·.without places)
  head := item.head.map (·.without places)
  patch := item.patch.map (·.without places)
  trace := item.trace.map (·.without places)
  parameters := dropSentIn places item.parameters

/-- The document without the parameters that are sent in the given places, on paths and on
operations. -/
def Document.without (document : Document) : Document :=
  { document with paths := document.paths.map fun entry => (entry.1, entry.2.without places) }

theorem PathItem.operations_without (item : PathItem) :
    (item.without places).operations =
      item.operations.map fun found => (found.1, found.2.without places) := by
  rw [operations, operations, List.map_filterMap]
  refine List.filterMap_congr fun method _ => ?_
  cases method <;> simp [operation?, PathItem.without, Function.comp_def]

end OpenApi

namespace Outline

variable {places : List Location}

theorem filter_replaceParameter (params : List Client.Parameter) (param : Client.Parameter) :
    (replaceParameter params param).filter (fun other => other.location ∉ places) =
      if param.location ∈ places then params.filter fun other => other.location ∉ places
      else replaceParameter (params.filter fun other => other.location ∉ places) param := by
  rw [replaceParameter, List.filter_append, List.filter_filter]
  split
  next hmem =>
    have hnone : [param].filter (fun other => other.location ∉ places) = [] := by simp [hmem]
    rw [hnone, List.append_nil]
    refine List.filter_congr fun other _ => ?_
    -- What the parameter replaces is sent in the same place, and goes with it.
    by_cases hother : other.location ∈ places
    · simp [hother]
    · have hne : other.location ≠ param.location := fun heq => hother (heq ▸ hmem)
      simp [hother, sameParameter, hne]
  next hmem =>
    have hone : [param].filter (fun other => other.location ∉ places) = [param] := by simp [hmem]
    rw [hone, replaceParameter, List.filter_filter]
    simp only [Bool.and_comm]

theorem foldl_replaceParameter_filter (own shared : List Client.Parameter) :
    (own.filter fun param => param.location ∉ places).foldl replaceParameter
        (shared.filter fun param => param.location ∉ places) =
      (own.foldl replaceParameter shared).filter fun param => param.location ∉ places := by
  induction own generalizing shared with
  | nil => rfl
  | cons param own ih =>
      rw [List.foldl_cons, ← ih, filter_replaceParameter, List.filter_cons]
      by_cases hmem : param.location ∈ places <;> simp [hmem]

theorem parameters_dropSentIn (document : OpenApi.Document)
    (shared own : Option (List OpenApi.Parameter)) :
    parameters document (OpenApi.dropSentIn places shared) (OpenApi.dropSentIn places own) =
      (parameters document shared own).filter fun param => param.location ∉ places := by
  have hdrop : ∀ params : Option (List OpenApi.Parameter),
      ((OpenApi.dropSentIn places params).getD []).map (parameter document) =
        ((params.getD []).map (parameter document)).filter
          fun param => param.location ∉ places := by
    intro params
    cases params with
    | none => rfl
    | some params =>
        rw [OpenApi.dropSentIn, Option.map_some, Option.getD_some, Option.getD_some,
          List.filter_map]
        rfl
  rw [parameters, parameters, hdrop, hdrop, foldl_replaceParameter_filter]

theorem sentIn_filter (location : Location) (params : List Client.Parameter) :
    sentIn location (params.filter fun param => param.location ∉ places) =
      if location ∈ places then [] else sentIn location params := by
  rw [sentIn, sentIn, List.filter_filter]
  split
  next hmem =>
    rw [List.filter_eq_nil_iff]
    rintro param _ hparam
    simp only [Bool.and_eq_true, decide_eq_true_eq] at hparam
    exact hparam.2 (hparam.1 ▸ hmem)
  next hmem =>
    refine List.filter_congr fun param _ => ?_
    by_cases heq : param.location = location <;> simp [heq, hmem]

end Outline

/-- The operation without the header and cookie parameters that are sent in the given places. -/
def Client.Operation.without (places : List Location) (op : Operation) : Operation :=
  { op with
    headerParams := if .header ∈ places then [] else op.headerParams
    cookieParams := if .cookie ∈ places then [] else op.cookieParams }

section

variable {places : List Location} (hpath : .path ∉ places) (hquery : .query ∉ places)

include hpath hquery

theorem Outline.operation_without (document : OpenApi.Document) (flavour : Flavour) (path : String)
    (shared : Option (List OpenApi.Parameter)) (method : Method) (op : OpenApi.Operation) :
    operation (document.without places) flavour path (OpenApi.dropSentIn places shared) method
        (op.without places) =
      (operation document flavour path shared method op).without places := by
  have hschemas : (document.without places).schemas = document.schemas := rfl
  rw [operation_eq_operation hschemas]
  simp only [operation, OpenApi.Operation.without, parameters_dropSentIn, sentIn_filter, hpath,
    hquery, if_false, Operation.without]
  rfl

theorem Plan.outlined_without (options : Options) (document : OpenApi.Document) :
    outlined options (document.without places) =
      (outlined options document).map (·.without places) := by
  rw [outlined, outlined, Outline.operations, Outline.operations, OpenApi.Document.without,
    List.flatMap_map, List.map_flatMap]
  refine List.flatMap_congr fun entry _ => ?_
  rw [OpenApi.PathItem.operations_without, List.map_map, List.map_map]
  refine List.map_congr_left fun found _ => ?_
  exact Outline.operation_without hpath hquery document (.angular options) _ _ _ _

end

end ClientPlan

import ClientPlan.Proofs.Plan.Outcome

/-! # From a document to its plan, no operation is lost or doubled

The document lists its operations path by path. The tags of a plan are the tags of that list, and
each has the operations of the list that carry it.
-/

namespace ClientPlan

open Client

/-! ## The list -/

/-- An operation as the document lists it. -/
structure Listed where
  method : Method
  path : String
  tags : List String
  deriving DecidableEq, Repr

namespace OpenApi

/-- The tags in the form by which operations are grouped, each once. -/
def Operation.listedTags (op : Operation) : List String :=
  match op.tags with
  | none => ["Default"]
  | some [] => ["Default"]
  | some declared => (declared.map Name.tag).eraseDups

/-- The declared operations of a path with their verbs. -/
def PathItem.listed (item : PathItem) : List (Method × Operation) :=
  [(.get, item.get), (.post, item.post), (.put, item.put), (.delete, item.delete),
    (.patch, item.patch), (.head, item.head), (.options, item.options),
    (.trace, item.trace)].filterMap fun slot => slot.2.map fun op => (slot.1, op)

/-- The operations of a document in the order of its paths. -/
def Document.listing (document : Document) : List Listed :=
  document.paths.flatMap fun entry =>
    entry.2.listed.map fun found => ⟨found.1, entry.1, found.2.listedTags⟩

theorem PathItem.operations_eq_listed (item : PathItem) : item.operations = item.listed := rfl

end OpenApi

namespace Client.Operation

/-- What the list says of an outlined operation. -/
def listed (op : Operation) : Listed :=
  ⟨op.method, op.rawPath, op.tags⟩

@[simp] theorem listed_annotated (options : Options) (op : Operation) :
    (op.annotated options).listed = op.listed := by
  simp only [listed, annotated_method, annotated_rawPath, annotated_tags]

end Client.Operation

namespace Outline

theorem tag_default : Name.tag "default" = "Default" := by decide +kernel

theorem tags_eq_listedTags (options : Options) (op : OpenApi.Operation) :
    tags (.angular options) op.tags = op.listedTags := by
  have hform : (Flavour.angular options).tag = Name.tag := by
    simp only [Flavour.angular]
  rw [OpenApi.Operation.listedTags]
  rcases op.tags with _ | _ | ⟨tag, rest⟩
  · simp only [tags, hform, tag_default]
  · simp only [tags, hform, tag_default]
  · simp only [tags, hform, distinct_eq_eraseDups]

end Outline

/-! ## The buckets of a tag -/

namespace Api

variable (flavour : Flavour) (models : List String) (tag : String) (ops : List Operation)

theorem getOperations_ofGroup :
    (ofGroup flavour models tag ops).getOperations =
      ops.filter fun op => op.method = .get := by
  rw [ofGroup, Operation.splitByKind, List.partition_eq_filter_filter]
  exact List.filter_congr fun op _ => op.isRetrieval_eq

theorem mutationOperations_ofGroup :
    (ofGroup flavour models tag ops).mutationOperations =
      ops.filter fun op => op.method ≠ .get := by
  rw [ofGroup, Operation.splitByKind, List.partition_eq_filter_filter]
  refine List.filter_congr fun op _ => ?_
  rw [Function.comp_apply, op.isRetrieval_eq, decide_not]

theorem hasGetOperations_ofGroup :
    (ofGroup flavour models tag ops).hasGetOperations = true ↔
      (ofGroup flavour models tag ops).getOperations ≠ [] := by
  simp [ofGroup]

theorem hasMutationOperations_ofGroup :
    (ofGroup flavour models tag ops).hasMutationOperations = true ↔
      (ofGroup flavour models tag ops).mutationOperations ≠ [] := by
  simp [ofGroup]

end Api

/-! ## The plan -/

namespace Plan

@[simp] theorem listed_member (group : List Operation) (op : Operation) :
    (member group op).listed = op.listed := by
  unfold member
  split <;> rfl

theorem map_listed_outlined (options : Options) (document : OpenApi.Document) :
    (outlined options document).map Operation.listed = document.listing := by
  rw [outlined, Outline.operations, List.map_flatMap, OpenApi.Document.listing]
  refine List.flatMap_congr fun entry _ => ?_
  rw [List.map_map, OpenApi.PathItem.operations_eq_listed]
  refine List.map_congr_left fun found _ => ?_
  simp only [Function.comp_apply, Operation.listed, Outline.operation,
    Outline.tags_eq_listedTags]

section

variable {options : Options} {document : OpenApi.Document} {plan : Plan}
  (hplan : ofDocument (.angular options) document = .ok plan)

include hplan

theorem map_tag_eq_listing :
    plan.apis.map Api.tag = (document.listing.flatMap Listed.tags).eraseDups := by
  rw [map_tag_of_ok hplan, ← map_listed_outlined options, List.flatMap_map]
  rfl

theorem map_listed_operations {api : Api} (hapi : api ∈ plan.apis) :
    api.operations.map Operation.listed =
      document.listing.filter fun op => api.tag ∈ op.tags := by
  rw [operations_of_ok hplan hapi, map_gather listed_member, List.map_map, carrying,
    ← map_listed_outlined options, List.filter_map]
  exact List.map_congr_left fun op _ => op.listed_annotated options

/-- The tags of a plan are those of the list in the order in which they are first seen. Each has
the listed operations that carry it, each once and in order, also where its buckets part
retrievals from mutations. -/
theorem operations_conserved :
    (plan.apis.map Api.tag).Nodup ∧
      plan.apis.map Api.tag = (document.listing.flatMap Listed.tags).eraseDups ∧
      ∀ api ∈ plan.apis,
        api.operations.map Operation.listed =
            document.listing.filter (fun op => api.tag ∈ op.tags) ∧
          api.getOperations = api.operations.filter (fun op => op.method = .get) ∧
          api.mutationOperations = api.operations.filter (fun op => op.method ≠ .get) ∧
          (api.hasGetOperations = true ↔ api.getOperations ≠ []) ∧
          (api.hasMutationOperations = true ↔ api.mutationOperations ≠ []) := by
  refine ⟨nodup_map_tag_of_ok hplan, map_tag_eq_listing hplan, ?_⟩
  intro api hapi
  refine ⟨map_listed_operations hplan hapi, ?_⟩
  rw [eq_ofGroup_of_ok hplan hapi]
  exact ⟨Api.getOperations_ofGroup .., Api.mutationOperations_ofGroup ..,
    Api.hasGetOperations_ofGroup .., Api.hasMutationOperations_ofGroup ..⟩

end

/-- A shop that declares two spellings of one tag, and nothing for its health check. -/
def petShop : OpenApi.Document where
  paths :=
    [("/pets",
        { post := some { tags := some ["Pet Shop", "stock", "pet-shop"] }
          get := some { tags := some ["stock"] } }),
      ("/health", { get := some {} })]

theorem operations_conserved_petShop :
    ∃ plan, ofDocument (.angular {}) petShop = .ok plan ∧
      plan.apis.map Api.tag = ["Stock", "PetShop", "Default"] ∧
      ∀ api ∈ plan.apis, api.tag = "Stock" →
        api.operations.map Operation.listed =
          [⟨.get, "/pets", ["Stock"]⟩, ⟨.post, "/pets", ["PetShop", "Stock"]⟩] := by
  have hplan := ofDocument_of_lenient {} petShop rfl
  obtain ⟨_, htags, hapis⟩ := operations_conserved hplan
  refine ⟨_, hplan, htags.trans (by decide +kernel), ?_⟩
  intro api hapi htag
  rw [(hapis api hapi).1, htag]
  decide +kernel

end Plan

end ClientPlan

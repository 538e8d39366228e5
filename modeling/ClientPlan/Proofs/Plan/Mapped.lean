import ClientPlan.Proofs.Plan.Groups

/-! # Changes that grouping does not see

Grouping looks at the ids of operations and at their tags. What else is changed in all operations
is changed in the same way in the operations of each tag.
-/

namespace ClientPlan

open Client

/-- The entry of a tag with its operations changed. -/
def Api.mapOperations (f : Operation → Operation) (api : Api) : Api :=
  { api with
    operations := api.operations.map f
    getOperations := api.getOperations.map f
    mutationOperations := api.mutationOperations.map f }

namespace Plan

/-- A change of operations that keeps ids and methods, and that may be made before or after an
operation takes a new id. -/
structure Unseen (f : Operation → Operation) : Prop where
  operationId : ∀ op, (f op).operationId = op.operationId
  method : ∀ op, (f op).method = op.method
  renamed : ∀ op id, f (renamed op id) = renamed (f op) id

theorem Unseen.comp {f g : Operation → Operation} (hf : Unseen f) (hg : Unseen g) :
    Unseen (f ∘ g) where
  operationId op := (hf.operationId (g op)).trans (hg.operationId op)
  method op := (hf.method (g op)).trans (hg.method op)
  renamed op id := by
    rw [Function.comp_apply, Function.comp_apply, hg.renamed, hf.renamed]

variable {f : Operation → Operation}

theorem mentionedModels_map (hf : ∀ op, mentionedTypes (f op) = mentionedTypes op)
    (models : List String) (ops : List Operation) :
    mentionedModels models (ops.map f) = mentionedModels models ops := by
  simp only [mentionedModels, List.flatMap_map, hf]

section

variable (hf : Unseen f)

include hf

theorem ids_map (ops : List Operation) : ids (ops.map f) = ids ops := by
  simp only [ids, List.map_map, Function.comp_def, hf.operationId]

theorem map_member (group : List Operation) (op : Operation) :
    member (group.map f) (f op) = f (member group op) := by
  rw [member, member, ids_map hf, hf.operationId]
  split
  next => exact (hf.renamed _ _).symm
  next => rfl

theorem gather_map (ops : List Operation) : gather (ops.map f) = (gather ops).map f := by
  induction ops using List.reverseRecOn with
  | nil => rfl
  | append_singleton ops op ih =>
      rw [List.map_append, List.map_singleton, gather_append_singleton, gather_append_singleton,
        List.map_append, ih, map_member hf, List.map_singleton]

theorem splitByKind_map (ops : List Operation) :
    Operation.splitByKind (ops.map f) =
      ((Operation.splitByKind ops).1.map f, (Operation.splitByKind ops).2.map f) := by
  have hkind : ∀ op, (f op).isRetrieval = op.isRetrieval := by
    intro op
    simp only [Operation.isRetrieval, Operation.kind, hf.method]
  simp only [Operation.splitByKind, List.partition_eq_filter_filter, List.filter_map,
    Function.comp_def, hkind]

variable (flavour : Flavour) (models : List String) (tag : String) (ops : List Operation)

/-- The imports of a tag may show the change in another way. -/
theorem ofGroup_map :
    Api.ofGroup flavour models tag (ops.map f) =
      { (Api.ofGroup flavour models tag ops).mapOperations f with
        imports := mentionedModels models (ops.map f) } := by
  simp only [Api.ofGroup, Api.mapOperations, splitByKind_map hf, List.isEmpty_map]

theorem mapOperations_ofGroup (hmentions : ∀ op, mentionedTypes (f op) = mentionedTypes op) :
    (Api.ofGroup flavour models tag (gather ops)).mapOperations f =
      Api.ofGroup flavour models tag (gather (ops.map f)) := by
  rw [gather_map hf, ofGroup_map hf, mentionedModels_map hmentions]
  rfl

end

end Plan

end ClientPlan

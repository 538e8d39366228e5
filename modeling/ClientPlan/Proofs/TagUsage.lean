import ClientPlan.Proofs.OrderedMap
import ClientPlan.TagUsage

/-! # Tag usage in closed form

The usage of a tag says which kinds are recorded under it, whatever their order.
-/

namespace ClientPlan

open Client

namespace Usage

/-- The usage of a tag with the given kinds. -/
def ofKinds (kinds : List Kind) : Usage where
  hasRetrieval := kinds.contains .retrieval
  hasMutation := kinds.contains .mutation

theorem ofKinds_append_singleton (kinds : List Kind) (kind : Kind) :
    ofKinds (kinds ++ [kind]) = (ofKinds kinds).note kind := by
  cases kind <;> simp [ofKinds, note]

theorem foldl_note (kinds : List Kind) : kinds.foldl note {} = ofKinds kinds := by
  induction kinds using List.reverseRecOn with
  | nil => rfl
  | append_singleton kinds kind ih =>
      rw [List.foldl_concat, ih, ofKinds_append_singleton]

@[simp] theorem hasRetrieval_ofKinds {kinds : List Kind} :
    (ofKinds kinds).hasRetrieval = true ↔ .retrieval ∈ kinds := by
  simp [ofKinds]

@[simp] theorem hasMutation_ofKinds {kinds : List Kind} :
    (ofKinds kinds).hasMutation = true ↔ .mutation ∈ kinds := by
  simp [ofKinds]

end Usage

namespace TagUsage

/-- Tags come in the order in which they are first recorded, each with the usage of the kinds
recorded under it. -/
theorem ofSteps_eq (steps : List (String × Kind)) :
    ofSteps steps =
      (steps.map Prod.fst).eraseDups.map
        fun tag => (tag, Usage.ofKinds (OrderedMap.valuesOf tag steps)) := by
  have hcollect : ofSteps steps = OrderedMap.collect {} Usage.note steps := rfl
  rw [hcollect, OrderedMap.collect_eq]
  refine List.map_congr_left fun tag _ => ?_
  rw [Usage.foldl_note]

theorem ofOperations_eq {ops : List Operation} (htags : ∀ op ∈ ops, op.tags.Nodup) :
    ofOperations ops =
      (ops.flatMap Operation.tags).eraseDups.map fun tag =>
        (tag, Usage.ofKinds ((ops.filter fun op => tag ∈ op.tags).map Operation.kind)) := by
  rw [ofOperations, ofSteps_eq, steps, OrderedMap.keys_flatMap Operation.tags Operation.kind]
  refine List.map_congr_left fun tag _ => ?_
  rw [OrderedMap.valuesOf_flatMap Operation.tags Operation.kind htags]

end TagUsage

end ClientPlan

import ClientPlan.Proofs.Plan.Conservation
import ClientPlan.Proofs.Plan.Coverage

/-! # The summaries of a plan agree with its tags

Tag usage is noted before annotation, and the entries of tags are formed after it. Both say the
same of each tag, and the paths left out can be read off either.
-/

namespace ClientPlan

open Client

namespace Api

variable (flavour : Flavour) (models : List String) (tag : String) (ops : List Operation)

theorem hasGetOperations_ofGroup_iff :
    (ofGroup flavour models tag ops).hasGetOperations = true ↔
      Kind.retrieval ∈ ops.map Operation.kind := by
  rw [hasGetOperations_ofGroup, getOperations_ofGroup, List.mem_map]
  simp only [ne_eq, List.filter_eq_nil_iff, decide_eq_true_eq, not_forall, not_not, exists_prop,
    Plan.kind_eq_retrieval_iff]

theorem hasMutationOperations_ofGroup_iff :
    (ofGroup flavour models tag ops).hasMutationOperations = true ↔
      Kind.mutation ∈ ops.map Operation.kind := by
  rw [hasMutationOperations_ofGroup, mutationOperations_ofGroup, List.mem_map]
  simp only [ne_eq, List.filter_eq_nil_iff, decide_eq_true_eq, not_forall, not_not, exists_prop,
    Plan.kind_eq_mutation_iff]

end Api

namespace Plan

section

variable {options : Options} {document : OpenApi.Document} {plan : Plan}
  (hplan : ofDocument (.angular options) document = .ok plan)

include hplan

section

variable {api : Api} (hapi : api ∈ plan.apis)

include hapi

theorem hasGetOperations_iff :
    api.hasGetOperations = true ↔ Kind.retrieval ∈ api.operations.map Operation.kind := by
  rw [eq_ofGroup_of_ok hplan hapi]
  exact Api.hasGetOperations_ofGroup_iff ..

theorem hasMutationOperations_iff :
    api.hasMutationOperations = true ↔ Kind.mutation ∈ api.operations.map Operation.kind := by
  rw [eq_ofGroup_of_ok hplan hapi]
  exact Api.hasMutationOperations_ofGroup_iff ..

theorem hasGetOperations_eq_false_iff :
    api.hasGetOperations = false ↔ api.getOperations = [] := by
  rw [← Bool.not_eq_true, eq_ofGroup_of_ok hplan hapi, Api.hasGetOperations_ofGroup, ne_eq,
    not_not]

theorem hasMutationOperations_eq_false_iff :
    api.hasMutationOperations = false ↔ api.mutationOperations = [] := by
  rw [← Bool.not_eq_true, eq_ofGroup_of_ok hplan hapi, Api.hasMutationOperations_ofGroup, ne_eq,
    not_not]

theorem ofKinds_eq_flags :
    Usage.ofKinds (api.operations.map Operation.kind) =
      ⟨api.hasGetOperations, api.hasMutationOperations⟩ := by
  rw [Usage.ofKinds, Usage.mk.injEq]
  constructor
  · rw [Bool.eq_iff_iff, List.contains_iff_mem]
    exact (hasGetOperations_iff hplan hapi).symm
  · rw [Bool.eq_iff_iff, List.contains_iff_mem]
    exact (hasMutationOperations_iff hplan hapi).symm

/-- What the entry of a tag leaves out: the service if it has no mutations, and the resources, where
there are files for these, if it has no retrievals. -/
theorem mem_ofTag_flags_iff {path : String} :
    path ∈ SkipSet.ofTag options api.fileName
        ⟨api.hasGetOperations, api.hasMutationOperations⟩ ↔
      api.mutationOperations = [] ∧ path = ArtifactKind.mutation.pathFor api.fileName ∨
        options.resourceFiles = true ∧ api.getOperations = [] ∧
          path = ArtifactKind.resource.pathFor api.fileName := by
  -- A tag without operations would leave nothing out, but a plan has none.
  have hflag : api.hasGetOperations = true ∨ api.hasMutationOperations = true := by
    rw [hasGetOperations_iff hplan hapi, hasMutationOperations_iff hplan hapi,
      ← SkipSet.kinds_ne_nil_iff, ne_eq, List.map_eq_nil_iff]
    exact operations_ne_nil hplan hapi
  rw [SkipSet.mem_ofTag, hasGetOperations_eq_false_iff hplan hapi,
    hasMutationOperations_eq_false_iff hplan hapi]
  exact and_iff_right hflag

end

theorem tagUsage_eq_flags :
    plan.tagUsage =
      plan.apis.map fun api => (api.tag, ⟨api.hasGetOperations, api.hasMutationOperations⟩) := by
  rw [tagUsage_of_ok hplan]
  refine List.map_congr_left fun api hapi => ?_
  rw [ofKinds_eq_flags hplan hapi]

theorem mem_skipSet_iff {path : String} :
    path ∈ plan.skipSet ↔ ∃ api ∈ plan.apis,
      api.mutationOperations = [] ∧ path = ArtifactKind.mutation.pathFor api.fileName ∨
        options.resourceFiles = true ∧ api.getOperations = [] ∧
          path = ArtifactKind.resource.pathFor api.fileName := by
  rw [skipSet_of_ok hplan, SkipSet.mem_ofUsage, tagUsage_eq_flags hplan]
  constructor
  · rintro ⟨entry, hentry, hpath⟩
    obtain ⟨api, hapi, rfl⟩ := List.mem_map.mp hentry
    rw [← fileName_of_ok hplan hapi] at hpath
    exact ⟨api, hapi, (mem_ofTag_flags_iff hplan hapi).mp hpath⟩
  · rintro ⟨api, hapi, hpath⟩
    refine ⟨_, List.mem_map_of_mem hapi, ?_⟩
    rw [← fileName_of_ok hplan hapi]
    exact (mem_ofTag_flags_iff hplan hapi).mpr hpath

/-- The usage of the tags is that of their entries, in their order. The paths left out are those of
the services of entries without mutations and, where there are resource files, of the resources of
entries without retrievals. -/
theorem summaries_agree :
    plan.tagUsage = plan.apis.map (fun api =>
        (api.tag, ⟨api.hasGetOperations, api.hasMutationOperations⟩)) ∧
      plan.skipSet.Pairwise (· < ·) ∧
      ∀ path, path ∈ plan.skipSet ↔ ∃ api ∈ plan.apis,
        api.mutationOperations = [] ∧ path = ArtifactKind.mutation.pathFor api.fileName ∨
          options.resourceFiles = true ∧ api.getOperations = [] ∧
            path = ArtifactKind.resource.pathFor api.fileName := by
  refine ⟨tagUsage_eq_flags hplan, ?_, fun path => mem_skipSet_iff hplan⟩
  rw [skipSet_of_ok hplan]
  exact SkipSet.sorted_ofUsage _ _ _

end

/-- Of two tags with one file stem, the one that is only read leaves out the service of both. -/
theorem summaries_agree_sharedStem :
    ∃ plan, ofDocument (.angular {}) sharedStem = .ok plan ∧
      plan.tagUsage = [("API", ⟨true, true⟩), ("Api", ⟨true, false⟩)] ∧
      "api/api-api.ts" ∈ plan.skipSet ∧ "api/api-resources.ts" ∉ plan.skipSet := by
  have hplan := ofDocument_of_lenient {} sharedStem rfl
  obtain ⟨husage, _, hskip⟩ := summaries_agree hplan
  refine ⟨_, hplan, husage.trans (by decide +kernel), ?_, ?_⟩
  · rw [hskip]
    decide +kernel
  · rw [hskip]
    decide +kernel

end Plan

end ClientPlan

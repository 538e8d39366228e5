import ClientPlan.Plan.Basic
import ClientPlan.Proofs.Annotation
import ClientPlan.Proofs.Plan.Groups
import ClientPlan.Proofs.Traversal

/-! # The plan of a document in closed form

Planning succeeds unless options forbid an open placeholder, and then every part of the plan is
known from the outlined operations and components of the document.
-/

namespace ClientPlan

open Client

namespace Outline

theorem distinct_append_singleton (xs : List String) (x : String) :
    distinct (xs ++ [x]) = if x ∈ xs then distinct xs else distinct xs ++ [x] := by
  induction xs with
  | nil => rfl
  | cons head tail ih =>
      rw [List.cons_append, distinct, ih, distinct]
      by_cases hhead : x = head
      · subst hhead
        by_cases hmem : x ∈ tail <;> simp [hmem]
      · by_cases hmem : x ∈ tail <;> simp [hmem, hhead]

theorem distinct_eq_eraseDups (xs : List String) : distinct xs = xs.eraseDups := by
  induction xs using List.reverseRecOn with
  | nil => rfl
  | append_singleton xs x ih => rw [distinct_append_singleton, eraseDups_append_singleton, ih]

theorem nodup_tags (flavour : Flavour) (declared : Option (List String)) :
    (tags flavour declared).Nodup := by
  unfold tags
  split
  next tag rest =>
    rw [distinct_eq_eraseDups]
    exact nodup_eraseDups _
  next => exact List.nodup_singleton _

end Outline

theorem isNormalId_operationName (declared : Option String) (method : Method) (path : String) :
    Name.IsNormalId (Flavour.operationName declared method path).toList := by
  unfold Flavour.operationName
  split
  next id => exact Name.isNormalId_operationId id
  next =>
    rw [Name.synthesizedId]
    exact Name.isNormalId_operationId _

namespace Plan

variable (options : Options) (document : OpenApi.Document)

/-- The operations of the document as the Angular client outlines them. -/
def outlined : List Operation :=
  Outline.operations document (.angular options)

/-- The outlined operations that carry a tag. -/
def carrying (tag : String) (ops : List Operation) : List Operation :=
  ops.filter fun op => tag ∈ op.tags

/-- The plan of a document whose operations are annotated as given. -/
def planned (ops : List Operation) : Plan :=
  let flavour := Flavour.angular options
  let models := (Outline.models document flavour).map flavour.annotateModel
  { generator := flavour.name
    options := options
    models := models
    apis := (groupByTag ops).map fun group =>
      Api.ofGroup flavour (models.map Model.name) group.1 group.2
    tagUsage := TagUsage.ofOperations (outlined options document)
    skipSet := flavour.skipSet (TagUsage.ofOperations (outlined options document)) }

theorem ofDocument_eq_bind :
    ofDocument (.angular options) document =
      ((outlined options document).mapM (Operation.annotate · options)).bind fun ops =>
        .ok (planned options document ops) := by
  have hannotate : (Flavour.angular options).annotateOperation =
      fun op => op.annotate options := by
    simp only [Flavour.angular]
  have hoptions : (Flavour.angular options).options = options := by
    simp only [Flavour.angular]
  simp only [ofDocument, planned, outlined, hannotate, hoptions, bind, pure, Except.pure]

/-- The plan of a document where planning succeeds. -/
def outcome : Plan :=
  planned options document ((outlined options document).map (Operation.annotated options))

theorem ofDocument_eq_ok_iff (plan : Plan) :
    ofDocument (.angular options) document = .ok plan ↔
      (∀ op ∈ outlined options document,
        options.strictPathParameters = true → op.openPlaceholders options = []) ∧
      plan = outcome options document := by
  have hops : ∀ ops, (outlined options document).mapM (Operation.annotate · options) = .ok ops ↔
      (∀ op ∈ outlined options document,
        options.strictPathParameters = true → op.openPlaceholders options = []) ∧
      ops = (outlined options document).map (Operation.annotated options) :=
    fun _ => mapM_eq_ok_iff (Operation.annotate_eq_ok_iff options)
  rw [ofDocument_eq_bind]
  cases hmapM : (outlined options document).mapM (Operation.annotate · options) with
  | error e =>
      -- A run that fails has met an operation whose open placeholder is forbidden.
      have hnot : ¬ ∀ op ∈ outlined options document,
          options.strictPathParameters = true → op.openPlaceholders options = [] := by
        intro hgood
        have hok := (hops _).mpr ⟨hgood, rfl⟩
        rw [hmapM] at hok
        cases hok
      simp only [Except.bind, reduceCtorEq, false_iff, not_and]
      exact fun hgood => absurd hgood hnot
  | ok ops =>
      obtain ⟨hgood, rfl⟩ := (hops ops).mp hmapM
      simp only [Except.bind, Except.ok.injEq]
      constructor
      · rintro rfl
        exact ⟨hgood, rfl⟩
      · rintro ⟨_, rfl⟩
        rfl

/-- Planning fails only where options forbid open placeholders. -/
theorem ofDocument_of_lenient (hlenient : options.strictPathParameters = false) :
    ofDocument (.angular options) document = .ok (outcome options document) := by
  rw [ofDocument_eq_ok_iff]
  refine ⟨fun op _ hstrict => ?_, rfl⟩
  rw [hlenient] at hstrict
  cases hstrict

/-! ## Outlined operations -/

variable {options document}

theorem mem_outlined {op : Operation} (hop : op ∈ outlined options document) :
    ∃ path shared method source, op =
      Outline.operation document (.angular options) path shared method source := by
  obtain ⟨entry, _, hentry⟩ := List.mem_flatMap.mp hop
  obtain ⟨found, _, heq⟩ := List.mem_map.mp hentry
  exact ⟨_, _, _, _, heq.symm⟩

theorem nodup_tags_of_mem_outlined {op : Operation} (hop : op ∈ outlined options document) :
    op.tags.Nodup := by
  obtain ⟨path, shared, method, source, rfl⟩ := mem_outlined hop
  simp only [Outline.operation]
  exact Outline.nodup_tags _ _

theorem isNormalId_of_mem_outlined {op : Operation} (hop : op ∈ outlined options document) :
    Name.IsNormalId op.operationId.toList := by
  obtain ⟨path, shared, method, source, rfl⟩ := mem_outlined hop
  simp only [Outline.operation, Flavour.angular]
  exact isNormalId_operationName _ _ _

/-! ## The tags of a plan -/

section

variable {plan : Plan} (hplan : ofDocument (.angular options) document = .ok plan)

include hplan

theorem eq_outcome_of_ok : plan = outcome options document :=
  ((ofDocument_eq_ok_iff options document plan).mp hplan).2

theorem tagUsage_eq_ofOperations :
    plan.tagUsage = TagUsage.ofOperations (outlined options document) := by
  rw [eq_outcome_of_ok hplan, outcome, planned]

theorem fileName_of_mem_models {model : Model} (hmodel : model ∈ plan.models) :
    model.fileName = Name.slug model.name := by
  rw [eq_outcome_of_ok hplan, outcome, planned] at hmodel
  obtain ⟨source, hsource, rfl⟩ := List.mem_map.mp hmodel
  obtain ⟨entry, _, rfl⟩ := List.mem_map.mp hsource
  simp only [Flavour.angular, Model.annotate, Outline.model]

/-- A plan has one entry for each tag of the outlined operations, made from the annotated
operations that carry the tag. -/
theorem apis_eq_of_ok :
    plan.apis =
      ((outlined options document).flatMap Operation.tags).eraseDups.map fun tag =>
        Api.ofGroup (.angular options) (plan.models.map Model.name) tag
          (gather ((carrying tag (outlined options document)).map
            (Operation.annotated options))) := by
  have htags : ∀ op ∈ (outlined options document).map (Operation.annotated options),
      op.tags.Nodup := by
    intro op hop
    obtain ⟨source, hsource, rfl⟩ := List.mem_map.mp hop
    rw [Operation.annotated_tags]
    exact nodup_tags_of_mem_outlined hsource
  have hgroups := groupByTag_eq htags
  simp only [List.flatMap_map, List.filter_map, Function.comp_def,
    Operation.annotated_tags] at hgroups
  rw [eq_outcome_of_ok hplan, outcome, planned, hgroups, List.map_map]
  rfl

theorem map_tag_of_ok :
    plan.apis.map Api.tag = ((outlined options document).flatMap Operation.tags).eraseDups := by
  rw [apis_eq_of_ok hplan, List.map_map]
  exact List.map_id' _

theorem exists_api_of_mem_tags {tag : String}
    (htag : tag ∈ (outlined options document).flatMap Operation.tags) :
    ∃ api ∈ plan.apis, api.tag = tag := by
  refine List.mem_map.mp ?_
  rw [map_tag_of_ok hplan, List.mem_eraseDups]
  exact htag

theorem nodup_map_tag_of_ok : (plan.apis.map Api.tag).Nodup := by
  rw [map_tag_of_ok hplan]
  exact nodup_eraseDups _

theorem eq_ofGroup_of_ok {api : Api} (hapi : api ∈ plan.apis) :
    api = Api.ofGroup (.angular options) (plan.models.map Model.name) api.tag
      (gather ((carrying api.tag (outlined options document)).map
        (Operation.annotated options))) := by
  rw [apis_eq_of_ok hplan] at hapi
  obtain ⟨tag, _, rfl⟩ := List.mem_map.mp hapi
  rfl

theorem operations_of_ok {api : Api} (hapi : api ∈ plan.apis) :
    api.operations =
      gather ((carrying api.tag (outlined options document)).map
        (Operation.annotated options)) :=
  congrArg Api.operations (eq_ofGroup_of_ok hplan hapi)

end

end Plan

end ClientPlan

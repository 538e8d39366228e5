import ClientPlan.Proofs.Plan.Mapped
import ClientPlan.Proofs.Plan.ModelFiles
import ClientPlan.Proofs.Plan.Strict

/-! # What options reach

Each option shows in the parts of a plan that it names. The usage of tags and the entries of tags,
apart from two notes on their operations, come from the document alone.
-/

namespace ClientPlan

open Client

namespace Client

/-- A property without its mark as read-only. -/
def Property.unmarked (property : Property) : Property :=
  { property with useReadonlyModifier := false }

/-- A model without its marks as read-only. -/
def Model.unmarked (model : Model) : Model :=
  { model with
    useReadonlyModifier := false
    properties := model.properties.map Property.unmarked }

theorem Model.unmarked_annotate (model : Model) (readonly other : Bool) :
    (model.annotate readonly).unmarked = (model.annotate other).unmarked := by
  simp only [annotate, unmarked, List.map_map, Function.comp_def, Property.unmarked]

namespace Operation

/-- An operation without the note that it is rendered as a resource. -/
def unpatterned (op : Operation) : Operation :=
  { op with notes := { op.notes with usesResourcePattern := false } }

/-- An operation without the note that its service is injected into. -/
def uninjected (op : Operation) : Operation :=
  { op with notes := { op.notes with usesInjectedDependency := false } }

/-- Options show in two notes of an operation. -/
theorem annotated_eq (options : Options) (op : Operation) :
    op.annotated options =
      { op.annotated {} with
        notes := { (op.annotated {}).notes with
          usesResourcePattern := op.isRetrieval && options.useReactiveResource
          usesInjectedDependency := options.useInjectedDependency } } := by
  have htemplate : (op.named options).template = (op.named {}).template := rfl
  simp only [annotated, withTemplates, htemplate]
  rfl

section

variable {options other : Options} (op : Operation)

theorem unpatterned_annotated
    (hinjected : options.useInjectedDependency = other.useInjectedDependency) :
    (op.annotated options).unpatterned = (op.annotated other).unpatterned := by
  rw [annotated_eq options, annotated_eq other, hinjected]
  rfl

theorem uninjected_annotated
    (hreactive : options.useReactiveResource = other.useReactiveResource) :
    (op.annotated options).uninjected = (op.annotated other).uninjected := by
  rw [annotated_eq options, annotated_eq other, hreactive]
  rfl

theorem unpatterned_uninjected_annotated :
    (op.annotated options).uninjected.unpatterned =
      (op.annotated other).uninjected.unpatterned := by
  rw [annotated_eq options, annotated_eq other]
  rfl

end

end Operation

end Client

namespace Plan

theorem unseen_unpatterned : Unseen Operation.unpatterned where
  operationId _ := rfl
  method _ := rfl
  renamed _ _ := rfl

theorem unseen_uninjected : Unseen Operation.uninjected where
  operationId _ := rfl
  method _ := rfl
  renamed _ _ := rfl

theorem ofUsage_eq_ofUsage {options other : Options}
    (hfiles : options.resourceFiles = other.resourceFiles) (usage : TagUsage)
    (stem : String → String) :
    SkipSet.ofUsage usage options stem = SkipSet.ofUsage usage other stem := by
  simp only [SkipSet.ofUsage, SkipSet.ofTag, hfiles]

section

variable {options other : Options} {document : OpenApi.Document} {plan otherPlan : Plan}
  (hplan : ofDocument (.angular options) document = .ok plan)
  (hother : ofDocument (.angular other) document = .ok otherPlan)

include hplan hother

theorem tagUsage_eq_tagUsage : plan.tagUsage = otherPlan.tagUsage := by
  rw [tagUsage_eq_ofOperations hplan, tagUsage_eq_ofOperations hother,
    outlined_eq_outlined options document other]

theorem map_unmarked_models :
    plan.models.map Model.unmarked = otherPlan.models.map Model.unmarked := by
  rw [models_eq_of_ok hplan, models_eq_of_ok hother, List.map_map, List.map_map]
  refine List.map_congr_left fun entry _ => ?_
  exact Model.unmarked_annotate _ _ _

/-- Two runs agree on the entries of tags up to a change that makes annotated operations agree. -/
theorem map_mapOperations_apis {f : Operation → Operation} (hf : Unseen f)
    (hmentions : ∀ op, mentionedTypes (f op) = mentionedTypes op)
    (hsame : ∀ op : Operation, f (op.annotated options) = f (op.annotated other)) :
    plan.apis.map (Api.mapOperations f) = otherPlan.apis.map (Api.mapOperations f) := by
  have hnames : plan.models.map Model.name = otherPlan.models.map Model.name := by
    rw [map_name_models_of_ok hplan, map_name_models_of_ok hother]
  rw [apis_eq_of_ok hplan, apis_eq_of_ok hother, List.map_map, List.map_map, hnames,
    outlined_eq_outlined options document other, ofGroup_eq_ofGroup options other]
  refine List.map_congr_left fun tag _ => ?_
  simp only [Function.comp_apply, mapOperations_ofGroup hf _ _ _ _ hmentions, List.map_map]
  have hcomp : f ∘ Operation.annotated options = f ∘ Operation.annotated other := funext hsame
  rw [hcomp]

/-- Two runs over one document differ where their options say so. The marks of models depend on one
option, each of two notes on operations on another, the paths left out on whether there are resource
files, and nothing else differs. -/
theorem options_reach :
    plan.tagUsage = otherPlan.tagUsage ∧
      plan.models.map Model.unmarked = otherPlan.models.map Model.unmarked ∧
      plan.apis.map (Api.mapOperations (Operation.unpatterned ∘ Operation.uninjected)) =
        otherPlan.apis.map (Api.mapOperations (Operation.unpatterned ∘ Operation.uninjected)) ∧
      (options.readonlyOutputModels = other.readonlyOutputModels →
        plan.models = otherPlan.models) ∧
      (options.useReactiveResource = other.useReactiveResource →
        plan.apis.map (Api.mapOperations Operation.uninjected) =
          otherPlan.apis.map (Api.mapOperations Operation.uninjected)) ∧
      (options.useInjectedDependency = other.useInjectedDependency →
        plan.apis.map (Api.mapOperations Operation.unpatterned) =
          otherPlan.apis.map (Api.mapOperations Operation.unpatterned)) ∧
      ((options.useReactiveResource && options.splitResourceArtifacts) =
          (other.useReactiveResource && other.splitResourceArtifacts) →
        plan.skipSet = otherPlan.skipSet) := by
  have husage := tagUsage_eq_tagUsage hplan hother
  refine ⟨husage, map_unmarked_models hplan hother, ?_, ?_, ?_, ?_, ?_⟩
  · exact map_mapOperations_apis hplan hother (unseen_unpatterned.comp unseen_uninjected)
      (fun _ => rfl) Operation.unpatterned_uninjected_annotated
  · intro hreadonly
    rw [models_eq_of_ok hplan, models_eq_of_ok hother, hreadonly]
    refine List.map_congr_left fun entry _ => ?_
    rfl
  · intro hreactive
    exact map_mapOperations_apis hplan hother unseen_uninjected (fun _ => rfl)
      fun op => op.uninjected_annotated hreactive
  · intro hinjected
    exact map_mapOperations_apis hplan hother unseen_unpatterned (fun _ => rfl)
      fun op => op.unpatterned_annotated hinjected
  · intro hfiles
    rw [skipSet_of_ok hplan, skipSet_of_ok hother, husage]
    exact ofUsage_eq_ofUsage hfiles _ _

end

theorem options_reach_fruitStand :
    ∃ plan other, ofDocument (.angular {}) fruitStand = .ok plan ∧
      ofDocument (.angular (Options.set {} .useReactiveResource false)) fruitStand = .ok other ∧
      plan.models = other.models ∧ plan.apis ≠ other.apis ∧
      plan.apis.map (Api.mapOperations Operation.unpatterned) =
        other.apis.map (Api.mapOperations Operation.unpatterned) := by
  have hplan := ofDocument_of_lenient {} fruitStand rfl
  have hother := ofDocument_of_lenient (Options.set {} .useReactiveResource false) fruitStand rfl
  obtain ⟨_, _, _, hmodels, _, hapis, _⟩ := options_reach hplan hother
  refine ⟨_, _, hplan, hother, hmodels rfl, ?_, hapis rfl⟩
  decide +kernel

end Plan

end ClientPlan

import ClientPlan.Annotation

/-! # What annotation does to an operation

Annotation succeeds unless options forbid an open placeholder, and its outcome does not depend on
whether they do. Of the operation it keeps all but the path, the notes and the names of
parameters, and the notes it makes agree with the rest.
-/

namespace ClientPlan.Client.Operation

/-- The outcome of annotation where it succeeds. -/
def annotated (options : Options) (op : Operation) : Operation :=
  (op.named options).withTemplates

/-- The placeholders of the raw path that no path parameter answers to. -/
def openPlaceholders (options : Options) (op : Operation) : List String :=
  ((op.named options).template .plain).unresolved

theorem isRetrieval_eq (op : Operation) : op.isRetrieval = decide (op.method = .get) := by
  unfold isRetrieval kind
  cases op.method <;> rfl

theorem annotate_eq_ok_iff (options : Options) (op outcome : Operation) :
    op.annotate options = .ok outcome ↔
      (options.strictPathParameters = true → op.openPlaceholders options = []) ∧
        outcome = op.annotated options := by
  simp only [annotate, openPlaceholders, annotated]
  cases hopen : ((op.named options).template .plain).unresolved with
  | nil =>
      simp only [Except.ok.injEq, implies_true, true_and]
      exact eq_comm
  | cons placeholder rest =>
      cases hstrict : options.strictPathParameters with
      | false =>
          simp only [Bool.false_eq_true, if_false, Except.ok.injEq, false_implies, true_and]
          exact eq_comm
      | true => simp only [if_true, reduceCtorEq, forall_const, false_and]

section

variable (options : Options) (op : Operation)

@[simp] theorem annotated_operationId : (op.annotated options).operationId = op.operationId := by
  simp only [annotated, withTemplates, named]

@[simp] theorem annotated_method : (op.annotated options).method = op.method := by
  simp only [annotated, withTemplates, named]

@[simp] theorem annotated_tags : (op.annotated options).tags = op.tags := by
  simp only [annotated, withTemplates, named]

@[simp] theorem annotated_rawPath : (op.annotated options).rawPath = op.rawPath := by
  simp only [annotated, withTemplates, named]

@[simp] theorem annotated_kind : (op.annotated options).kind = op.kind := by
  simp only [kind, annotated_method]

@[simp] theorem annotated_queryParams_isEmpty :
    (op.annotated options).queryParams.isEmpty = op.queryParams.isEmpty := by
  simp only [annotated, withTemplates, named, List.isEmpty_map]

theorem annotated_queryInterface :
    (op.annotated options).notes.queryParamsInterfaceName =
      if op.queryParams.isEmpty then none else some (Name.queryInterface op.operationId) := by
  cases hempty : op.queryParams.isEmpty <;>
    simp only [annotated, withTemplates, named, hempty, Bool.not_true, Bool.not_false, if_true,
      Bool.false_eq_true, if_false]

end

/-- The notes by which an operation is rendered say of it what holds under the options. -/
structure IsNoted (options : Options) (op : Operation) : Prop where
  usesResourcePattern :
    op.notes.usesResourcePattern = (op.isRetrieval && options.useReactiveResource)
  hasQueryParams : op.notes.hasQueryParams = !op.queryParams.isEmpty
  queryInterface : op.notes.queryParamsInterfaceName.isSome = !op.queryParams.isEmpty
  plainPathTemplate : op.notes.plainPathTemplate = (op.template .plain).text
  valuePathTemplate : op.notes.valuePathTemplate = (op.template .value).text

theorem template_withTemplates (op : Operation) (dialect : PathTemplate.Dialect) :
    op.withTemplates.template dialect = op.template dialect := by
  simp only [template, withTemplates]

theorem isNoted_annotated (options : Options) (op : Operation) :
    IsNoted options (op.annotated options) where
  usesResourcePattern := by
    rw [isRetrieval, annotated_kind, annotated, withTemplates, named, isRetrieval]
  hasQueryParams := by
    rw [annotated_queryParams_isEmpty, annotated, withTemplates, named]
  queryInterface := by
    rw [annotated_queryParams_isEmpty, annotated_queryInterface]
    cases op.queryParams.isEmpty <;> rfl
  plainPathTemplate := by
    rw [annotated, template_withTemplates, withTemplates]
  valuePathTemplate := by
    rw [annotated, template_withTemplates, withTemplates]

-- The names and templates it makes are large terms; later proofs go by the lemmas above.
attribute [irreducible] annotated

end ClientPlan.Client.Operation

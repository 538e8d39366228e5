import ClientPlan.Generation
import ClientPlan.Proofs.PathTemplate
import ClientPlan.Proofs.Plan.UniqueIds

/-! # Forbidding unknown placeholders

Options can forbid placeholders that match no path parameter. A run that forbids them differs from
one that does not only where there are any: it then fails at the first.
-/

namespace ClientPlan

open Client

namespace Client.Operation

/-- The placeholders of the raw path, in order, that are neither the wire name of a path parameter
nor its name in generated code. -/
def unknownPlaceholders (op : Operation) : List String :=
  (PathTemplate.placeholderNames
    (PathTemplate.segments (PathTemplate.unescape op.rawPath).toList)).filter fun name =>
      ∀ param ∈ op.pathParams, param.rawName ≠ name ∧ Name.camel param.rawName ≠ name

/-- The error that the first of them is. -/
def unknownPlaceholder? (op : Operation) : Option UnknownPlaceholder :=
  op.unknownPlaceholders.head?.map fun placeholder => ⟨op.operationId, placeholder⟩

theorem unknownPlaceholder?_eq_none_iff (op : Operation) :
    op.unknownPlaceholder? = none ↔ op.unknownPlaceholders = [] := by
  simp [unknownPlaceholder?]

section

variable {op : Operation} (hpath : ∀ param ∈ op.pathParams, param.location = .path)

include hpath

theorem unresolved_template_named (options : Options) (dialect : PathTemplate.Dialect) :
    ((op.named options).template dialect).unresolved = op.unknownPlaceholders := by
  rw [template, PathTemplate.unresolved_build, unknownPlaceholders]
  apply List.filter_congr
  intro name _
  rw [Bool.eq_iff_iff, Option.isNone_iff_eq_none, PathTemplate.parameter?_eq_none_iff,
    decide_eq_true_eq]
  simp only [named, List.forall_mem_map, Parameter.namedInPath, Parameter.named]
  constructor
  · intro hall param hparam
    exact hall param hparam (hpath param hparam)
  · intro hall param hparam _
    exact hall param hparam

theorem annotate_eq_elim (options : Options) :
    op.annotate options =
      (if options.strictPathParameters then op.unknownPlaceholder? else none).elim
        (.ok (op.annotated options)) .error := by
  have hopen := unresolved_template_named hpath options .plain
  unfold annotate unknownPlaceholder?
  simp only [hopen, annotated]
  cases op.unknownPlaceholders with
  | nil => cases options.strictPathParameters <;> rfl
  | cons placeholder rest => cases options.strictPathParameters <;> rfl

/-- The value dialect copies the same names as the plain one, which alone is looked at. -/
theorem unresolved_annotated (options : Options) :
    (op.annotated options).notes.unresolvedPlaceholders = op.unknownPlaceholders ∧
      ∀ dialect, ((op.annotated options).template dialect).unresolved = op.unknownPlaceholders := by
  rw [annotated]
  constructor
  · rw [withTemplates, unresolved_template_named hpath]
  · intro dialect
    rw [template_withTemplates, unresolved_template_named hpath]

end

end Client.Operation

/-- The first placeholder that matches no path parameter, under the id of its operation. -/
def firstUnknown? (ops : List Operation) : Option UnknownPlaceholder :=
  ops.findSome? Operation.unknownPlaceholder?

theorem firstUnknown?_eq_none_iff (ops : List Operation) :
    firstUnknown? ops = none ↔ ∀ op ∈ ops, op.unknownPlaceholders = [] := by
  simp only [firstUnknown?, List.findSome?_eq_none_iff, Operation.unknownPlaceholder?_eq_none_iff]

namespace Plan

variable (options : Options) (document : OpenApi.Document)

theorem location_of_mem_outlined {op : Operation} (hop : op ∈ outlined options document) :
    ∀ param ∈ op.pathParams, param.location = .path := by
  obtain ⟨path, shared, method, source, rfl⟩ := mem_outlined hop
  intro param hparam
  simp only [Outline.operation, Outline.sentIn, List.mem_filter, decide_eq_true_eq] at hparam
  exact hparam.2

/-- Planning fails at the first forbidden placeholder. -/
theorem ofDocument_eq_elim :
    ofDocument (.angular options) document =
      (if options.strictPathParameters then firstUnknown? (outlined options document)
        else none).elim (.ok (outcome options document)) .error := by
  have hrun := mapM_eq_findSome? fun op hop =>
    Operation.annotate_eq_elim (location_of_mem_outlined options document hop) options
  rw [ofDocument_eq_bind, hrun, outcome]
  cases options.strictPathParameters with
  | false =>
      have hnone : (outlined options document).findSome?
          (fun _ => (none : Option UnknownPlaceholder)) = none :=
        List.findSome?_eq_none_iff.mpr fun _ _ => rfl
      simp only [Bool.false_eq_true, if_false, hnone]
      rfl
  | true =>
      simp only [if_true, firstUnknown?]
      cases (outlined options document).findSome? Operation.unknownPlaceholder? <;> rfl

/-! ## What options do not touch -/

section

variable (other : Options)

theorem outlined_eq_outlined : outlined options document = outlined other document := by
  simp only [outlined, Flavour.angular, Outline.operations, Outline.operation, Outline.tags]

theorem models_eq_models :
    Outline.models document (.angular options) = Outline.models document (.angular other) := by
  simp only [Flavour.angular, Outline.models, Outline.model]

theorem ofGroup_eq_ofGroup : Api.ofGroup (.angular options) = Api.ofGroup (.angular other) := by
  funext models tag ops
  simp only [Flavour.angular, Api.ofGroup]

end

section

variable (strict : Bool)

theorem annotated_set_strict :
    Operation.annotated (options.set .strictPathParameters strict) =
      Operation.annotated options := by
  funext op
  simp only [Operation.annotated, Operation.named, Options.set]

/-- Whether placeholders are forbidden shows in the options of a plan and nowhere else. -/
theorem outcome_set_strict :
    outcome (options.set .strictPathParameters strict) document =
      { outcome options document with options := options.set .strictPathParameters strict } := by
  have hmodel : (Flavour.angular (options.set .strictPathParameters strict)).annotateModel =
      (Flavour.angular options).annotateModel := rfl
  have hskip : (Flavour.angular (options.set .strictPathParameters strict)).skipSet =
      (Flavour.angular options).skipSet := rfl
  simp only [outcome, planned, hmodel, hskip, annotated_set_strict,
    outlined_eq_outlined _ document options, models_eq_models _ document options,
    ofGroup_eq_ofGroup _ options]
  rfl

end

/-! ## Two runs over one text -/

theorem ofText_lenient_ne (text : String) (error : UnknownPlaceholder) :
    ofText (options.set .strictPathParameters false) text ≠ .error (.placeholder error) := by
  unfold ofText
  cases OpenApi.Document.ofText text with
  | error problem => simp
  | ok document =>
      have hlenient := ofDocument_of_lenient (options.set .strictPathParameters false) document rfl
      simp [hlenient, Except.mapError]

variable {document}

theorem ofText_set_strict {text : String} (htext : OpenApi.Document.ofText text = .ok document)
    (strict : Bool) :
    ofText (options.set .strictPathParameters strict) text =
      (if strict then firstUnknown? (outlined options document) else none).elim
        (.ok { outcome options document with options := options.set .strictPathParameters strict })
        fun error => .error (.placeholder error) := by
  have hflag : (options.set .strictPathParameters strict).strictPathParameters = strict := rfl
  simp only [ofText, htext]
  rw [ofDocument_eq_elim, hflag, outlined_eq_outlined _ document options, outcome_set_strict]
  cases strict with
  | false => rfl
  | true => cases hfirst : firstUnknown? (outlined options document) <;> rfl

variable {options}

theorem unresolved_of_mem_operations {plan : Plan}
    (hplan : ofDocument (.angular options) document = .ok plan)
    (hknown : ∀ op ∈ outlined options document, op.unknownPlaceholders = []) {api : Api}
    (hapi : api ∈ plan.apis) {op : Operation} (hop : op ∈ api.operations) :
    op.notes.unresolvedPlaceholders = [] ∧ ∀ dialect, (op.template dialect).unresolved = [] := by
  obtain ⟨source, hsource, n, rfl⟩ := exists_underNumber_of_mem_operations hplan hapi hop
  have hpath := location_of_mem_outlined options document hsource
  have hannotated := Operation.unresolved_annotated hpath options
  rw [hknown source hsource] at hannotated
  exact hannotated

/-- Forbidding unknown placeholders rejects the documents that have some, by the first of them, and
changes nothing else. -/
theorem strict_only_rejects (options : Options) (text : String) :
    (∀ error,
      ofText (options.set .strictPathParameters false) text ≠ .error (.placeholder error)) ∧
    ∀ document, OpenApi.Document.ofText text = .ok document →
      ((∃ error,
          ofText (options.set .strictPathParameters true) text = .error (.placeholder error)) ↔
        ∃ op ∈ outlined options document, op.unknownPlaceholders ≠ []) ∧
      (∀ error, ofText (options.set .strictPathParameters true) text = .error (.placeholder error) →
        firstUnknown? (outlined options document) = some error) ∧
      ((∀ op ∈ outlined options document, op.unknownPlaceholders = []) →
        ∃ plan, ofText (options.set .strictPathParameters false) text = .ok plan ∧
          ofText (options.set .strictPathParameters true) text =
            .ok { plan with options := options.set .strictPathParameters true } ∧
          ∀ api ∈ plan.apis, ∀ op ∈ api.operations, op.notes.unresolvedPlaceholders = [] ∧
            ∀ dialect, (op.template dialect).unresolved = []) := by
  refine ⟨ofText_lenient_ne options text, ?_⟩
  intro document htext
  -- Both runs in closed form: they differ by the first unknown placeholder alone.
  have hlenient := ofText_set_strict options htext false
  have hstrict := ofText_set_strict options htext true
  obtain ⟨plan, hplan⟩ : ∃ plan, plan = outcome options document := ⟨_, rfl⟩
  simp only [← hplan, Bool.false_eq_true, if_false, if_true, Option.elim_none] at hlenient hstrict
  have hnone := firstUnknown?_eq_none_iff (outlined options document)
  rw [hstrict]
  cases hfirst : firstUnknown? (outlined options document) with
  | some found =>
      have hfound : ¬ ∀ op ∈ outlined options document, op.unknownPlaceholders = [] := by
        simp [← hnone, hfirst]
      simp only [Option.elim_some, Except.error.injEq, Failure.placeholder.injEq]
      refine ⟨?_, ?_, fun hknown => absurd hknown hfound⟩
      · simpa using hfound
      · rintro error rfl
        rfl
  | none =>
      have hknown := hnone.mp hfirst
      simp only [Option.elim_none, reduceCtorEq, exists_false, false_iff, false_implies,
        implies_true, true_and]
      refine ⟨?_, fun _ => ⟨_, hlenient, rfl, ?_⟩⟩
      · rintro ⟨op, hop, hunknown⟩
        exact hunknown (hknown op hop)
      · intro api hapi op hop
        have hrun : ofDocument (.angular options) document = .ok plan := by
          rw [ofDocument_eq_elim, hfirst, ite_self, hplan]
          rfl
        exact unresolved_of_mem_operations hrun hknown hapi hop

/-- A path that names its tenant, and no parameter for it. -/
def tenants : String :=
  "paths:\n" ++
  "  /tenants/{tenantId}/users:\n" ++
  "    get:\n" ++
  "      operationId: listUsers\n"

/-- The same path with its parameter. -/
def knownTenants : String :=
  tenants ++
  "      parameters:\n" ++
  "        - name: tenantId\n" ++
  "          in: path\n"

theorem exists_document_of_map_eq_some {α : Type} {text : String} {f : OpenApi.Document → α} {a : α}
    (htext : (OpenApi.Document.ofText text).toOption.map f = some a) :
    ∃ document, OpenApi.Document.ofText text = .ok document ∧ f document = a := by
  obtain ⟨document, hdocument, ha⟩ := Option.map_eq_some_iff.mp htext
  cases hread : OpenApi.Document.ofText text with
  | error problem => simp [hread, Except.toOption] at hdocument
  | ok found =>
      rw [hread] at hdocument
      obtain rfl := Option.some.inj hdocument
      exact ⟨found, rfl, ha⟩

theorem strict_only_rejects_tenants :
    ofText (Options.set {} .strictPathParameters true) tenants =
        .error (.placeholder ⟨"listUsers", "tenantId"⟩) ∧
      ∃ plan, ofText (Options.set {} .strictPathParameters false) knownTenants = .ok plan ∧
        ofText (Options.set {} .strictPathParameters true) knownTenants =
          .ok { plan with options := Options.set {} .strictPathParameters true } := by
  constructor
  · have hread : (OpenApi.Document.ofText tenants).toOption.map
        (fun document => firstUnknown? (outlined {} document)) =
          some (some ⟨"listUsers", "tenantId"⟩) := by decide +kernel
    obtain ⟨document, htext, hfirst⟩ := exists_document_of_map_eq_some hread
    obtain ⟨_, hrun⟩ := strict_only_rejects {} tenants
    obtain ⟨hrejected, hnamed, _⟩ := hrun document htext
    have hunknown : ∃ op ∈ outlined {} document, op.unknownPlaceholders ≠ [] := by
      have hne : ¬ ∀ op ∈ outlined {} document, op.unknownPlaceholders = [] := by
        simp [← firstUnknown?_eq_none_iff, hfirst]
      simpa using hne
    obtain ⟨error, herror⟩ := hrejected.mpr hunknown
    have hsame := (hnamed error herror).symm.trans hfirst
    rw [herror, Option.some.inj hsame]
  · have hread : (OpenApi.Document.ofText knownTenants).toOption.map
        (fun document => firstUnknown? (outlined {} document)) = some none := by decide +kernel
    obtain ⟨document, htext, hfirst⟩ := exists_document_of_map_eq_some hread
    obtain ⟨_, hrun⟩ := strict_only_rejects {} knownTenants
    obtain ⟨_, _, haccepted⟩ := hrun document htext
    obtain ⟨plan, hlenient, hstrict, _⟩ := haccepted ((firstUnknown?_eq_none_iff _).mp hfirst)
    exact ⟨plan, hlenient, hstrict⟩

end Plan

end ClientPlan

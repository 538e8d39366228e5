import ClientPlan.Proofs.Annotation

/-! # Annotating again

What earlier annotations have left in an operation, whether they went through or failed half way,
does not show once the operation is annotated again.
-/

namespace ClientPlan.Client

/-- The parameter under its wire name alone. -/
def Parameter.unnamed (param : Parameter) : Parameter :=
  { param with identifier := "" }

/-- The path parameter under its wire name alone, not known to be numeric. -/
def Parameter.unnamedInPath (param : Parameter) : Parameter :=
  { param.unnamed with isNumeric := false }

namespace Operation

/-- The operation without notes, and without what is noted in its path and query parameters. -/
def unannotated (op : Operation) : Operation :=
  { op with
    pathParams := op.pathParams.map Parameter.unnamedInPath
    queryParams := op.queryParams.map Parameter.unnamed
    notes := {} }

/-- The operation that annotation in place leaves, also where it fails. -/
def leftBy (op : Operation) (options : Options) : Operation :=
  ((annotateInPlace options).run.run op).2

theorem run_modify_get {σ ε : Type} (f : σ → σ) (next : σ → ExceptT ε (StateM σ) Unit) (state : σ) :
    (do modify f; let changed ← get; next changed : ExceptT ε (StateM σ) Unit).run.run state =
      (next (f state)).run.run (f state) :=
  rfl

theorem run_annotateInPlace (options : Options) (op : Operation) :
    (annotateInPlace options).run.run op =
      match op.annotate options with
      | .ok outcome => (.ok (), outcome)
      | .error error => (.error error, op.named options) := by
  rw [annotateInPlace, run_modify_get]
  unfold annotate
  dsimp only
  cases ((op.named options).template .plain).unresolved with
  | nil => rfl
  | cons placeholder rest => cases options.strictPathParameters <;> rfl

theorem annotate_eq_error {options : Options} {op : Operation} {placeholder : String}
    {others : List String} (hstrict : options.strictPathParameters = true)
    (hopen : op.openPlaceholders options = placeholder :: others) :
    op.annotate options = .error ⟨op.operationId, placeholder⟩ := by
  rw [openPlaceholders] at hopen
  simp only [annotate, hopen, hstrict, if_true]
  rfl

theorem leftBy_cases (op : Operation) (options : Options) :
    op.leftBy options = op.annotated options ∨ op.leftBy options = op.named options := by
  rw [leftBy, run_annotateInPlace]
  cases houtcome : op.annotate options with
  | ok outcome => exact .inl ((annotate_eq_ok_iff options op outcome).mp houtcome).2
  | error error => exact .inr rfl

section

variable (op : Operation) (options : Options)

/-! ## What annotation reads -/

theorem template_named_unannotated (dialect : PathTemplate.Dialect) :
    (op.unannotated.named options).template dialect = (op.named options).template dialect := by
  simp only [template, named, unannotated, List.map_map]
  rfl

theorem template_named_eq (other : Options) (dialect : PathTemplate.Dialect) :
    (op.named options).template dialect = (op.named other).template dialect := by
  simp only [template, named]

theorem withTemplates_named_unannotated :
    (op.unannotated.named options).withTemplates = (op.named options).withTemplates := by
  simp only [withTemplates, template_named_unannotated]
  simp only [named, unannotated, List.map_map, List.isEmpty_map]
  rfl

/-- Of what annotation writes, the path apart, nothing is read before it is written. -/
theorem annotate_unannotated : op.unannotated.annotate options = op.annotate options := by
  have hid : (op.unannotated.named options).operationId = (op.named options).operationId := rfl
  simp only [annotate, template_named_unannotated, withTemplates_named_unannotated, hid]

theorem annotate_set_path (path : String)
    (hpath : ((op.named options).template .plain).text.isEmpty = true → path = op.path) :
    { op with path := path }.annotate options = op.annotate options := by
  have hid : ({ op with path := path }.named options).operationId =
      (op.named options).operationId := rfl
  have htemplate : ∀ dialect, ({ op with path := path }.named options).template dialect =
      (op.named options).template dialect := fun _ => rfl
  have htemplates : ({ op with path := path }.named options).withTemplates =
      (op.named options).withTemplates := by
    simp only [withTemplates, htemplate]
    cases hempty : ((op.named options).template .plain).text.isEmpty with
    | true => rw [hpath hempty]
    | false => rfl
  simp only [annotate, htemplate, htemplates, hid]

/-! ## What annotation leaves -/

theorem unannotated_named : (op.named options).unannotated = op.unannotated := by
  simp only [named, unannotated, List.map_map]
  rfl

theorem unannotated_annotated :
    (op.annotated options).unannotated =
      { op.unannotated with path := (op.annotated options).path } := by
  simp only [annotated, withTemplates, named, unannotated, List.map_map]
  rfl

theorem path_annotated_of_isEmpty
    (hempty : ((op.named options).template .plain).text.isEmpty = true) :
    (op.annotated options).path = op.path := by
  simp only [annotated, withTemplates, hempty, if_true]
  rw [named]

end

theorem annotate_leftBy_eq (first second : Options) (op : Operation) :
    (op.leftBy first).annotate second = op.annotate second := by
  rcases op.leftBy_cases first with hleft | hleft
  · rw [hleft, ← annotate_unannotated, unannotated_annotated, annotate_set_path,
      annotate_unannotated]
    intro hempty
    -- The plain template is empty under all options or under none.
    rw [template_named_unannotated, template_named_eq op second first] at hempty
    exact op.path_annotated_of_isEmpty first hempty
  · rw [hleft, ← annotate_unannotated, unannotated_named, annotate_unannotated]

/-- Annotation yields the same whatever annotations came before, and it depends on nothing that they
write, the path apart. -/
theorem annotate_again (op : Operation) (options : Options) :
    (∀ earlier : List Options,
        (earlier.foldl leftBy op).annotate options = op.annotate options) ∧
      (∀ outcome, op.annotate options = .ok outcome →
        outcome.annotate options = .ok outcome) ∧
      ∀ other : Operation, other.unannotated = op.unannotated →
        other.annotate options = op.annotate options := by
  refine ⟨?_, ?_, ?_⟩
  · intro earlier
    induction earlier generalizing op with
    | nil => rfl
    | cons first earlier ih => rw [List.foldl_cons, ih, annotate_leftBy_eq]
  · intro outcome houtcome
    have hleft : op.leftBy options = outcome := by
      rw [leftBy, run_annotateInPlace, houtcome]
    rw [← hleft, annotate_leftBy_eq, houtcome, hleft]
  · intro other hother
    rw [← annotate_unannotated, hother, annotate_unannotated]

/-- The number of a toy. -/
def toyId : Parameter where
  rawName := "toy_id"
  location := .path
  required := true
  dataType := "number"
  baseType := some "integer"
  isInteger := true
  isNumber := false
  identifier := ""
  isNumeric := false

/-- An operation on a toy, and on a shelf that no parameter gives. -/
def moveToy : Operation where
  operationId := "moveToy"
  method := .put
  tags := ["toys"]
  rawPath := "/toys/\x7btoy_id\x7d/\x7bshelf\x7d"
  path := "/toys/\x7btoy_id\x7d/\x7bshelf\x7d"
  summary := none
  deprecated := false
  pathParams := [toyId]
  queryParams := []
  headerParams := []
  cookieParams := []
  body := none
  responseType := "void"
  notes := {}

theorem annotate_again_moveToy :
    let strict := Options.set {} .strictPathParameters true
    moveToy.annotate strict = .error ⟨"moveToy", "shelf"⟩ ∧
      (moveToy.leftBy strict).pathParams.map Parameter.identifier = ["toyId"] ∧
      ∃ outcome, moveToy.annotate {} = .ok outcome ∧
        outcome.path = "/toys/$\x7btoyId\x7d/$\x7bshelf\x7d" ∧
        (moveToy.leftBy strict).annotate {} = .ok outcome ∧
        outcome.annotate {} = .ok outcome ∧
        moveToy.unannotated.annotate {} = .ok outcome := by
  intro strict
  have hopen : moveToy.openPlaceholders strict = ["shelf"] := by decide +kernel
  have hfailed : moveToy.annotate strict = .error ⟨"moveToy", "shelf"⟩ :=
    annotate_eq_error rfl hopen
  have hnamed : (moveToy.leftBy strict).pathParams.map Parameter.identifier = ["toyId"] := by
    decide +kernel
  have houtcome : moveToy.annotate {} = .ok (moveToy.annotated {}) :=
    (annotate_eq_ok_iff {} moveToy _).mpr ⟨nofun, rfl⟩
  obtain ⟨hearlier, hidempotent, hindependent⟩ := annotate_again moveToy {}
  have hlater : (moveToy.leftBy strict).annotate {} = moveToy.annotate {} := hearlier [strict]
  have hplain : moveToy.unannotated.annotate {} = moveToy.annotate {} :=
    hindependent moveToy.unannotated (by decide +kernel)
  exact ⟨hfailed, hnamed, moveToy.annotated {}, houtcome, by decide +kernel,
    hlater.trans houtcome, hidempotent _ houtcome, hplain.trans houtcome⟩

end Operation

end ClientPlan.Client

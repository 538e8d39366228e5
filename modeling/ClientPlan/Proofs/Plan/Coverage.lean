import ClientPlan.Proofs.Artifact
import ClientPlan.Proofs.Plan.Outcome

/-! # Which operations the planned files cover

Files are left out by path, and tags can share a path. A file of a tag is planned exactly when
each tag with the same stem has operations of the kind that the file serves.
-/

namespace ClientPlan.Plan

open Client

/-! ## Methods and kinds -/

theorem kind_eq_iff (first second : Operation) :
    first.kind = second.kind ↔ (first.method = .get ↔ second.method = .get) := by
  rw [Operation.kind, Operation.kind]
  cases first.method <;> cases second.method <;> decide

theorem kind_eq_retrieval_iff (op : Operation) : op.kind = .retrieval ↔ op.method = .get := by
  rw [Operation.kind]
  cases op.method <;> decide

theorem kind_eq_mutation_iff (op : Operation) : op.kind = .mutation ↔ op.method ≠ .get := by
  rw [Operation.kind]
  cases op.method <;> decide

theorem serving_kind (op : Operation) :
    ArtifactKind.serving op.kind = if op.method = .get then .resource else .mutation := by
  rw [Operation.kind]
  cases op.method <;> rfl

/-! ## Planned files -/

theorem mem_apiFiles {plan : Plan} {file : PlannedFile} :
    file ∈ plan.apiFiles ↔
      file.kind ∈ ArtifactKind.ofTag plan.options ∧ ∃ api, plan.apis[file.index]? = some api ∧
        file.path = file.kind.pathFor api.fileName := by
  rw [apiFiles, List.mem_flatMap]
  constructor
  · rintro ⟨⟨api, index⟩, hentry, hfile⟩
    obtain ⟨kind, hkind, rfl⟩ := List.mem_map.mp hfile
    exact ⟨hkind, api, List.mk_mem_zipIdx_iff_getElem?.mp hentry, rfl⟩
  · rintro ⟨hkind, api, hapi, hpath⟩
    refine ⟨(api, file.index), List.mk_mem_zipIdx_iff_getElem?.mpr hapi, ?_⟩
    exact List.mem_map.mpr ⟨file.kind, hkind, by rw [← hpath]⟩

theorem kind_of_mem_modelFiles {plan : Plan} {file : PlannedFile} (hfile : file ∈ plan.modelFiles) :
    file.kind = .model := by
  obtain ⟨entry, _, rfl⟩ := List.mem_map.mp hfile
  rfl

theorem mem_plannedFiles_of_ne_model {plan : Plan} {file : PlannedFile}
    (hfile : file.kind ≠ .model) :
    file ∈ plan.plannedFiles ↔ file ∈ plan.apiFiles ∧ file.path ∉ plan.skipSet := by
  rw [plannedFiles, List.mem_filter, List.mem_append]
  have hmodel : file ∉ plan.modelFiles := fun hmem => hfile (kind_of_mem_modelFiles hmem)
  simp [hmodel]

/-- A tag has a planned file of a kind when there are files of that kind and its path is not left
out. -/
theorem exists_planned_iff {plan : Plan} {kind : ArtifactKind} (hkind : kind ≠ .model) {index : Nat}
    {api : Api} (hapi : plan.apis[index]? = some api) :
    (∃ file ∈ plan.plannedFiles, file.index = index ∧ file.kind = kind) ↔
      kind ∈ ArtifactKind.ofTag plan.options ∧ kind.pathFor api.fileName ∉ plan.skipSet := by
  constructor
  · rintro ⟨file, hfile, rfl, rfl⟩
    obtain ⟨hmem, hskip⟩ := (mem_plannedFiles_of_ne_model hkind).mp hfile
    obtain ⟨hofTag, found, hfound, hpath⟩ := mem_apiFiles.mp hmem
    obtain rfl : found = api := Option.some.inj (hfound.symm.trans hapi)
    exact ⟨hofTag, hpath ▸ hskip⟩
  · rintro ⟨hofTag, hskip⟩
    refine ⟨⟨kind.pathFor api.fileName, kind, index⟩, ?_, rfl, rfl⟩
    exact (mem_plannedFiles_of_ne_model hkind).mpr
      ⟨mem_apiFiles.mpr ⟨hofTag, api, hapi, rfl⟩, hskip⟩

/-! ## The paths left out -/

section

variable {options : Options} {document : OpenApi.Document} {plan : Plan}
  (hplan : ofDocument (.angular options) document = .ok plan)

include hplan

theorem options_of_ok : plan.options = options := by
  rw [eq_outcome_of_ok hplan, outcome, planned]

theorem fileName_of_ok {api : Api} (hapi : api ∈ plan.apis) : api.fileName = Name.slug api.tag := by
  have hfile : (Flavour.angular options).apiFile = Name.slug := by
    simp only [Flavour.angular]
  have hgroup := congrArg Api.fileName (eq_ofGroup_of_ok hplan hapi)
  rw [hgroup, Api.ofGroup, hfile]

/-- No tag of a plan is without operations. -/
theorem operations_ne_nil {api : Api} (hapi : api ∈ plan.apis) : api.operations ≠ [] := by
  have htag : api.tag ∈ plan.apis.map Api.tag := List.mem_map_of_mem hapi
  rw [map_tag_of_ok hplan, List.mem_eraseDups, List.mem_flatMap] at htag
  obtain ⟨op, hop, htag⟩ := htag
  have hcarrying : op ∈ carrying api.tag (outlined options document) :=
    List.mem_filter.mpr ⟨hop, by simpa using htag⟩
  rw [operations_of_ok hplan hapi, ← List.length_pos_iff, length_gather, List.length_map]
  exact List.length_pos_of_mem hcarrying

/-- The usage of a tag is that of the operations that the plan has for it. -/
theorem tagUsage_of_ok :
    plan.tagUsage =
      plan.apis.map fun api => (api.tag, Usage.ofKinds (api.operations.map Operation.kind)) := by
  rw [tagUsage_eq_ofOperations hplan,
    TagUsage.ofOperations_eq fun op hop => nodup_tags_of_mem_outlined hop, apis_eq_of_ok hplan,
    List.map_map]
  refine List.map_congr_left fun tag _ => ?_
  simp only [Function.comp_def, Api.ofGroup, map_gather member_kind, List.map_map, carrying,
    Operation.annotated_kind]

theorem skipSet_of_ok : plan.skipSet = SkipSet.ofUsage plan.tagUsage options Name.slug := by
  rw [eq_outcome_of_ok hplan, outcome, planned]
  simp only [Flavour.angular]

/-- A tag loses the file that serves a kind when some tag with its stem has no operation of that
kind. -/
theorem serving_mem_skipSet_iff {kind : Kind}
    (hkind : ArtifactKind.serving kind ∈ ArtifactKind.ofTag options) {api : Api}
    (hapi : api ∈ plan.apis) :
    (ArtifactKind.serving kind).pathFor api.fileName ∈ plan.skipSet ↔
      ∃ other ∈ plan.apis, Name.slug other.tag = Name.slug api.tag ∧
        ∀ op ∈ other.operations, op.kind ≠ kind := by
  rw [skipSet_of_ok hplan, SkipSet.mem_ofUsage, tagUsage_of_ok hplan, fileName_of_ok hplan hapi]
  constructor
  · rintro ⟨entry, hentry, hpath⟩
    obtain ⟨other, hother, rfl⟩ := List.mem_map.mp hentry
    obtain ⟨hstem, _, hkinds⟩ := (SkipSet.serving_mem_ofTag hkind).mp hpath
    refine ⟨other, hother, hstem.symm, ?_⟩
    rintro op hop rfl
    exact hkinds (List.mem_map_of_mem hop)
  · rintro ⟨other, hother, hstem, hkinds⟩
    -- A tag without operations would leave nothing out, but a plan has none.
    refine ⟨_, List.mem_map_of_mem hother, ?_⟩
    refine (SkipSet.serving_mem_ofTag hkind).mpr ⟨hstem.symm, ?_, ?_⟩
    · simpa using operations_ne_nil hplan hother
    · intro hmem
      obtain ⟨op, hop, hkind⟩ := List.mem_map.mp hmem
      exact hkinds op hop hkind

theorem serving_planned_iff {kind : Kind}
    (hkind : ArtifactKind.serving kind ∈ ArtifactKind.ofTag options) {index : Nat} {api : Api}
    (hapi : plan.apis[index]? = some api) :
    (∃ file ∈ plan.plannedFiles, file.index = index ∧ file.kind = ArtifactKind.serving kind) ↔
      ∀ other ∈ plan.apis, Name.slug other.tag = Name.slug api.tag →
        ∃ op ∈ other.operations, op.kind = kind := by
  have hmem := List.mem_of_getElem? hapi
  rw [exists_planned_iff (ArtifactKind.serving_ne_model kind) hapi, options_of_ok hplan,
    serving_mem_skipSet_iff hplan hkind hmem]
  simp only [hkind, true_and, not_exists, not_and, not_forall, not_not, exists_prop]

theorem eq_of_tag_eq {first second : Api} (hfirst : first ∈ plan.apis)
    (hsecond : second ∈ plan.apis) (htag : first.tag = second.tag) : first = second :=
  List.inj_on_of_nodup_map (nodup_map_tag_of_ok hplan) hfirst hsecond htag

/-! ## With resource files -/

/-- With resource files an operation is covered exactly when every other tag with the same file
stem has an operation of its kind. -/
theorem operation_planned_iff (hreactive : options.useReactiveResource = true)
    (hsplit : options.splitResourceArtifacts = true) {index : Nat} {api : Api}
    (hapi : plan.apis[index]? = some api) :
    ∀ op ∈ api.operations,
      (∃ file ∈ plan.plannedFiles, file.index = index ∧
          file.kind = if op.method = .get then .resource else .mutation) ↔
        ∀ other ∈ plan.apis, other.tag ≠ api.tag → Name.slug other.tag = Name.slug api.tag →
          ∃ same ∈ other.operations, same.method = .get ↔ op.method = .get := by
  intro op hop
  have hfiles : options.resourceFiles = true := by
    rw [Options.resourceFiles, hreactive, hsplit, Bool.and_self]
  have hkind : ArtifactKind.serving op.kind ∈ ArtifactKind.ofTag options := by
    cases op.kind with
    | retrieval => exact ArtifactKind.resource_mem_ofTag.mpr hfiles
    | mutation => exact ArtifactKind.mutation_mem_ofTag options
  rw [← serving_kind, serving_planned_iff hplan hkind hapi]
  simp only [← kind_eq_iff]
  constructor
  · intro hall other hother _ hstem
    exact hall other hother hstem
  · intro hall other hother hstem
    -- The tag itself has the operation in question.
    by_cases htag : other.tag = api.tag
    · obtain rfl := eq_of_tag_eq hplan hother (List.mem_of_getElem? hapi) htag
      exact ⟨op, hop, rfl⟩
    · exact hall other hother htag hstem

end

/-- Two tags with one file stem, one of them with operations of both kinds. -/
def sharedStem : OpenApi.Document where
  paths :=
    [("/a",
        { get := some { tags := some ["API"] }
          post := some { tags := some ["API"] } }),
      ("/b", { get := some { tags := some ["Api"] } })]

theorem operation_planned_iff_sharedStem :
    ∃ plan, ofDocument (.angular {}) sharedStem = .ok plan ∧
      ∃ api, plan.apis[0]? = some api ∧ ∃ op ∈ api.operations, op.method = .get ∧
        ∃ file ∈ plan.plannedFiles, file.index = 0 ∧
          file.kind = if op.method = .get then .resource else .mutation := by
  have hplan := ofDocument_of_lenient {} sharedStem rfl
  have hsome : ((outcome {} sharedStem).apis[0]?).isSome = true := by decide +kernel
  have hget : ∀ api ∈ (outcome {} sharedStem).apis[0]?,
      ∃ op ∈ api.operations, op.method = .get := by decide +kernel
  have hothers : ∀ other ∈ (outcome {} sharedStem).apis,
      ∃ same ∈ other.operations, same.method = .get := by decide +kernel
  obtain ⟨api, hapi⟩ := Option.isSome_iff_exists.mp hsome
  obtain ⟨op, hop, hmethod⟩ := hget api hapi
  refine ⟨_, hplan, api, hapi, op, hop, hmethod, ?_⟩
  apply (operation_planned_iff hplan rfl rfl hapi op hop).mpr
  intro other hother _ _
  obtain ⟨same, hsame, hsameMethod⟩ := hothers other hother
  exact ⟨same, hsame, iff_of_true hsameMethod hmethod⟩

/-- The first tag has an operation that changes something, and no file for it. -/
theorem not_planned_sharedStem :
    ∃ plan, ofDocument (.angular {}) sharedStem = .ok plan ∧
      ∃ api, plan.apis[0]? = some api ∧ ∃ op ∈ api.operations, op.method = .post ∧
        ¬ ∃ file ∈ plan.plannedFiles, file.index = 0 ∧
          file.kind = if op.method = .get then .resource else .mutation := by
  have hsome : ((outcome {} sharedStem).apis[0]?).isSome = true := by decide +kernel
  have hpost : ∀ api ∈ (outcome {} sharedStem).apis[0]?,
      ∃ op ∈ api.operations, op.method = .post := by decide +kernel
  have hfiles : ∀ file ∈ (outcome {} sharedStem).plannedFiles, file.kind ≠ .mutation := by
    decide +kernel
  obtain ⟨api, hapi⟩ := Option.isSome_iff_exists.mp hsome
  obtain ⟨op, hop, hmethod⟩ := hpost api hapi
  refine ⟨_, ofDocument_of_lenient {} sharedStem rfl, api, hapi, op, hop, hmethod, ?_⟩
  rintro ⟨file, hfile, _, hkind⟩
  rw [hmethod] at hkind
  exact hfiles file hfile hkind

section

variable {options : Options} {document : OpenApi.Document} {plan : Plan}
  (hplan : ofDocument (.angular options) document = .ok plan)

include hplan

/-! ## Without resource files -/

/-- Without resource files a tag has its service where each tag with its file stem changes
something, and a tag of retrievals alone has no file. -/
theorem service_planned (hoff : options.useReactiveResource = false ∨
      options.splitResourceArtifacts = false) {index : Nat} {api : Api}
    (hapi : plan.apis[index]? = some api) :
    ((∀ other ∈ plan.apis, Name.slug other.tag = Name.slug api.tag →
          ∃ op ∈ other.operations, op.method ≠ .get) →
        ∃ file ∈ plan.plannedFiles, file.index = index ∧ file.kind = .mutation) ∧
      ((∀ op ∈ api.operations, op.method = .get) →
        ∀ file ∈ plan.plannedFiles, file.index = index → file.kind = .model) := by
  have hserved : ArtifactKind.serving .mutation ∈ ArtifactKind.ofTag options :=
    ArtifactKind.mutation_mem_ofTag options
  have hiff := serving_planned_iff hplan hserved hapi
  simp only [kind_eq_mutation_iff] at hiff
  refine ⟨hiff.mpr, ?_⟩
  intro hgets file hfile hindex
  by_contra hmodel
  obtain ⟨hmem, _⟩ := (mem_plannedFiles_of_ne_model hmodel).mp hfile
  have hkind : file.kind = .mutation := by
    have hofTag := (mem_apiFiles.mp hmem).1
    rw [options_of_ok hplan, ArtifactKind.ofTag_of_off hoff, List.mem_singleton] at hofTag
    exact hofTag
  obtain ⟨op, hop, hne⟩ := hiff.mp ⟨file, hfile, hindex, hkind⟩ api (List.mem_of_getElem? hapi) rfl
  exact hne (hgets op hop)

end

/-- Options under which resources go into the services. -/
def unsplit : Options where
  splitResourceArtifacts := false

/-- A shop whose stock is only read and whose orders are also placed. -/
def stockAndOrders : OpenApi.Document where
  paths :=
    [("/stock", { get := some { tags := some ["Stock"] } }),
      ("/orders",
        { get := some { tags := some ["Orders"] }
          post := some { tags := some ["Orders"] } })]

theorem service_planned_stockAndOrders :
    ∃ plan, ofDocument (.angular unsplit) stockAndOrders = .ok plan ∧
      ∃ api, plan.apis[1]? = some api ∧
        ∃ file ∈ plan.plannedFiles, file.index = 1 ∧ file.kind = .mutation := by
  have hplan := ofDocument_of_lenient unsplit stockAndOrders rfl
  have hsome : ((outcome unsplit stockAndOrders).apis[1]?).isSome = true := by decide +kernel
  have hstem : ∀ api ∈ (outcome unsplit stockAndOrders).apis[1]?,
      ∀ other ∈ (outcome unsplit stockAndOrders).apis,
        Name.slug other.tag = Name.slug api.tag → ∃ op ∈ other.operations, op.method ≠ .get := by
    decide +kernel
  obtain ⟨api, hapi⟩ := Option.isSome_iff_exists.mp hsome
  exact ⟨_, hplan, api, hapi, (service_planned hplan (.inr rfl) hapi).1 (hstem api hapi)⟩

/-- The tag that is only read has an operation and no file. -/
theorem not_service_planned_stockAndOrders :
    ∃ plan, ofDocument (.angular unsplit) stockAndOrders = .ok plan ∧
      ∃ api, plan.apis[0]? = some api ∧ api.operations ≠ [] ∧
        ¬ ∃ file ∈ plan.plannedFiles, file.index = 0 ∧ file.kind = .mutation := by
  have hsome : ((outcome unsplit stockAndOrders).apis[0]?).isSome = true := by decide +kernel
  have hops : ∀ api ∈ (outcome unsplit stockAndOrders).apis[0]?,
      api.operations ≠ [] := by decide +kernel
  obtain ⟨api, hapi⟩ := Option.isSome_iff_exists.mp hsome
  refine ⟨_, ofDocument_of_lenient unsplit stockAndOrders rfl, api, hapi, hops api hapi, ?_⟩
  decide +kernel

end ClientPlan.Plan

import Mathlib.Data.List.Nodup
import Mathlib.Data.Set.Pairwise.List
import ClientPlan.Proofs.Plan.Coverage

/-! # The paths of planned files

The path of a planned file is made from its kind and the file stem of its model or tag. Names with
one stem share their paths, so planned paths are distinct exactly when no names with one stem have
files of one kind.
-/

namespace ClientPlan

open Client

namespace Plan

/-! ## Paths without their files -/

/-- The paths of the files of a tag, as far as they are not left out. -/
def keptPaths (plan : Plan) (api : Api) : List String :=
  ((ArtifactKind.ofTag plan.options).map fun kind => kind.pathFor api.fileName).filter
    fun path => !plan.skipSet.contains path

theorem map_path_modelFiles (plan : Plan) :
    plan.modelFiles.map PlannedFile.path =
      plan.models.map fun model => ArtifactKind.model.pathFor model.fileName := by
  rw [modelFiles, List.map_map]
  conv_rhs => rw [← List.zipIdx_map_fst 0 plan.models, List.map_map]
  rfl

theorem map_path_apiFiles (plan : Plan) :
    plan.apiFiles.map PlannedFile.path =
      plan.apis.flatMap fun api =>
        (ArtifactKind.ofTag plan.options).map fun kind => kind.pathFor api.fileName := by
  rw [apiFiles, List.map_flatMap]
  conv_rhs => rw [← List.zipIdx_map_fst 0 plan.apis, List.flatMap_map]
  refine List.flatMap_congr fun entry _ => ?_
  rw [List.map_map]
  rfl

theorem mem_keptPaths {plan : Plan} {api : Api} {path : String} :
    path ∈ plan.keptPaths api ↔
      ∃ kind ∈ ArtifactKind.ofTag plan.options, kind.pathFor api.fileName = path ∧
        path ∉ plan.skipSet := by
  simp only [keptPaths, List.mem_filter, List.mem_map, Bool.not_eq_true', List.contains_eq_mem,
    decide_eq_false_iff_not]
  constructor
  · rintro ⟨⟨kind, hkind, hpath⟩, hskip⟩
    exact ⟨kind, hkind, hpath, hskip⟩
  · rintro ⟨kind, hkind, hpath, hskip⟩
    exact ⟨⟨kind, hkind, hpath⟩, hskip⟩

theorem nodup_keptPaths (plan : Plan) (api : Api) : (plan.keptPaths api).Nodup := by
  refine List.Nodup.filter _ ((ArtifactKind.nodup_ofTag plan.options).map ?_)
  intro kind other heq
  exact (ArtifactKind.pathFor_inj heq).1

/-- Tags share a path exactly when they share their stem and a file for it is not left out. -/
theorem disjoint_keptPaths_iff {plan : Plan} {first second : Api} :
    List.Disjoint (plan.keptPaths first) (plan.keptPaths second) ↔
      (first.fileName = second.fileName → ∀ kind ∈ ArtifactKind.ofTag plan.options,
        kind.pathFor first.fileName ∈ plan.skipSet) := by
  constructor
  · intro hdisjoint hstem kind hkind
    by_contra hskip
    have hfirst := mem_keptPaths.mpr ⟨kind, hkind, rfl, hskip⟩
    rw [hstem] at hskip
    have hsecond := mem_keptPaths.mpr ⟨kind, hkind, rfl, hskip⟩
    rw [hstem] at hfirst
    exact hdisjoint hfirst hsecond
  · intro hskipped path hfirst hsecond
    obtain ⟨kind, hkind, rfl, hskip⟩ := mem_keptPaths.mp hfirst
    obtain ⟨other, _, hpath, _⟩ := mem_keptPaths.mp hsecond
    obtain ⟨_, hstem⟩ := ArtifactKind.pathFor_inj hpath
    exact hskip (hskipped hstem.symm kind hkind)

/-- Files of models and files of tags never share a path. -/
theorem disjoint_model_paths (plan : Plan) :
    List.Disjoint (plan.models.map fun model => ArtifactKind.model.pathFor model.fileName)
      (plan.apis.flatMap plan.keptPaths) := by
  intro path hmodel hapi
  obtain ⟨model, _, rfl⟩ := List.mem_map.mp hmodel
  obtain ⟨api, _, hkept⟩ := List.mem_flatMap.mp hapi
  obtain ⟨kind, hkind, hpath, _⟩ := mem_keptPaths.mp hkept
  obtain ⟨rfl, _⟩ := ArtifactKind.pathFor_inj hpath
  exact ArtifactKind.model_not_mem_ofTag plan.options hkind

/-! ## Distinct paths -/

section

variable {options : Options} {document : OpenApi.Document} {plan : Plan}
  (hplan : ofDocument (.angular options) document = .ok plan)

include hplan

/-- Only files of tags are left out. -/
theorem model_path_not_mem_skipSet (stem : String) :
    ArtifactKind.model.pathFor stem ∉ plan.skipSet := by
  rw [skipSet_of_ok hplan, SkipSet.mem_ofUsage]
  rintro ⟨entry, _, hpath⟩
  rcases (SkipSet.mem_ofTag.mp hpath).2 with ⟨_, heq⟩ | ⟨_, _, heq⟩
  · exact absurd (ArtifactKind.pathFor_inj heq).1 (by decide)
  · exact absurd (ArtifactKind.pathFor_inj heq).1 (by decide)

theorem map_path_plannedFiles :
    plan.plannedFiles.map PlannedFile.path =
      (plan.models.map fun model => ArtifactKind.model.pathFor model.fileName) ++
        plan.apis.flatMap plan.keptPaths := by
  have hmodels : ∀ path ∈ plan.models.map fun model => ArtifactKind.model.pathFor model.fileName,
      (!plan.skipSet.contains path) = true := by
    intro path hpath
    obtain ⟨model, _, rfl⟩ := List.mem_map.mp hpath
    simpa using model_path_not_mem_skipSet hplan model.fileName
  calc plan.plannedFiles.map PlannedFile.path
      = ((plan.modelFiles ++ plan.apiFiles).map PlannedFile.path).filter
          (fun path => !plan.skipSet.contains path) := by
        rw [plannedFiles, List.filter_map]
        rfl
    _ = _ := by
        rw [List.map_append, map_path_modelFiles, map_path_apiFiles, List.filter_append,
          List.filter_eq_self.mpr hmodels, List.filter_flatMap]
        rfl

theorem nodup_model_paths_iff :
    (plan.models.map fun model => ArtifactKind.model.pathFor model.fileName).Nodup ↔
      (plan.models.map fun model => Name.slug model.name).Nodup := by
  have hpaths : (plan.models.map fun model => ArtifactKind.model.pathFor model.fileName) =
      (plan.models.map fun model => Name.slug model.name).map ArtifactKind.model.pathFor := by
    rw [List.map_map]
    refine List.map_congr_left fun model hmodel => ?_
    rw [fileName_of_mem_models hplan hmodel]
    rfl
  rw [hpaths, List.nodup_map_iff (ArtifactKind.pathFor_injective _)]

/-- The entries of a plan are told apart by their tags. -/
theorem pairwise_apis_iff {r : Api → Api → Prop} (hsymm : Std.Symm r) :
    plan.apis.Pairwise r ↔
      ∀ first ∈ plan.apis, ∀ second ∈ plan.apis, first.tag ≠ second.tag → r first second := by
  have hnodup : plan.apis.Nodup := List.Nodup.of_map _ (nodup_map_tag_of_ok hplan)
  rw [← hnodup.pairwise_coe]
  constructor
  · intro hpairwise first hfirst second hsecond htag
    exact hpairwise hfirst hsecond fun heq => htag (congrArg Api.tag heq)
  · intro hall first hfirst second hsecond hne
    exact hall first hfirst second hsecond fun htag =>
      hne (eq_of_tag_eq hplan hfirst hsecond htag)

theorem disjoint_keptPaths_iff_slug {first second : Api} (hfirst : first ∈ plan.apis)
    (hsecond : second ∈ plan.apis) :
    List.Disjoint (plan.keptPaths first) (plan.keptPaths second) ↔
      (Name.slug first.tag = Name.slug second.tag →
        ∀ kind, ArtifactKind.serving kind ∈ ArtifactKind.ofTag options →
          ∃ other ∈ plan.apis, Name.slug other.tag = Name.slug first.tag ∧
            ∀ op ∈ other.operations, op.kind ≠ kind) := by
  rw [disjoint_keptPaths_iff, ArtifactKind.forall_mem_ofTag, options_of_ok hplan,
    ← fileName_of_ok hplan hfirst, ← fileName_of_ok hplan hsecond]
  refine forall_congr' fun _ => forall₂_congr fun kind hkind => ?_
  rw [serving_mem_skipSet_iff hplan hkind hfirst, fileName_of_ok hplan hfirst]

/-- The paths of planned files are distinct exactly when no two models have one file stem, and of
tags with one file stem each file is left out because some of them has no use for it. -/
theorem nodup_paths_iff :
    (plan.plannedFiles.map PlannedFile.path).Nodup ↔
      (plan.models.map fun model => Name.slug model.name).Nodup ∧
        ∀ first ∈ plan.apis, ∀ second ∈ plan.apis, first.tag ≠ second.tag →
          Name.slug first.tag = Name.slug second.tag →
            ∀ kind, ArtifactKind.serving kind ∈ ArtifactKind.ofTag options →
              ∃ other ∈ plan.apis, Name.slug other.tag = Name.slug first.tag ∧
                ∀ op ∈ other.operations, op.kind ≠ kind := by
  have hsymm : Std.Symm (Function.onFun List.Disjoint plan.keptPaths) :=
    ⟨fun _ _ => List.disjoint_symm⟩
  have hflat : (plan.apis.flatMap plan.keptPaths).Nodup ↔
      plan.apis.Pairwise (Function.onFun List.Disjoint plan.keptPaths) := by
    rw [List.nodup_flatMap]
    exact and_iff_right fun api _ => nodup_keptPaths plan api
  rw [map_path_plannedFiles hplan, List.nodup_append', nodup_model_paths_iff hplan, hflat,
    pairwise_apis_iff hplan hsymm]
  constructor
  · rintro ⟨hmodels, hapis, _⟩
    refine ⟨hmodels, ?_⟩
    intro first hfirst second hsecond htag
    exact (disjoint_keptPaths_iff_slug hplan hfirst hsecond).mp
      (hapis first hfirst second hsecond htag)
  · rintro ⟨hmodels, hapis⟩
    refine ⟨hmodels, ?_, disjoint_model_paths plan⟩
    intro first hfirst second hsecond htag
    exact (disjoint_keptPaths_iff_slug hplan hfirst hsecond).mpr
      (hapis first hfirst second hsecond htag)

end

/-- Tags of one file stem whose files are all left out, beside models that are told apart. -/
def splitStem : OpenApi.Document where
  paths :=
    [("/a", { post := some { tags := some ["API"] } }),
      ("/b", { get := some { tags := some ["Api"] } }),
      ("/c", { get := some { tags := some ["Course"] } })]
  components := some
    { schemas := some
        [("Course", { type := some (.single "object") }),
          ("CourseUpdate", { type := some (.single "object") })] }

theorem nodup_paths_iff_splitStem :
    ∃ plan, ofDocument (.angular {}) splitStem = .ok plan ∧
      (plan.plannedFiles.map PlannedFile.path).Nodup := by
  have hplan := ofDocument_of_lenient {} splitStem rfl
  refine ⟨_, hplan, (nodup_paths_iff hplan).mpr ⟨by decide +kernel, ?_⟩⟩
  have hapis : ∀ first ∈ (outcome {} splitStem).apis, ∀ second ∈ (outcome {} splitStem).apis,
      first.tag ≠ second.tag → Name.slug first.tag = Name.slug second.tag →
        ∀ kind ∈ [Kind.retrieval, Kind.mutation],
          ∃ other ∈ (outcome {} splitStem).apis, Name.slug other.tag = Name.slug first.tag ∧
            ∀ op ∈ other.operations, op.kind ≠ kind := by
    decide +kernel
  intro first hfirst second hsecond htag hslug kind _
  exact hapis first hfirst second hsecond htag hslug kind (by cases kind <;> decide)

/-- Two spellings of an acronym. -/
def acronyms : OpenApi.Document where
  components := some
    { schemas := some
        [("APIKey",
            { type := some (.single "object")
              properties := some [("id", { type := some (.single "integer") })] }),
          ("ApiKey",
            { type := some (.single "object")
              properties := some [("token", { type := some (.single "string") })] })] }

/-- Both models go into one file. -/
theorem not_nodup_paths_acronyms :
    ∃ plan, ofDocument (.angular {}) acronyms = .ok plan ∧
      plan.plannedFiles.map PlannedFile.path = ["models/api-key.ts", "models/api-key.ts"] ∧
      ¬ (plan.plannedFiles.map PlannedFile.path).Nodup := by
  refine ⟨_, ofDocument_of_lenient {} acronyms rfl, ?_, ?_⟩
  · decide +kernel
  · decide +kernel

end Plan

end ClientPlan

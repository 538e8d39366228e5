import Mathlib.Tactic.Tauto
import ClientPlan.Artifact
import ClientPlan.Proofs.TagUsage

/-! # Paths of files

A path tells the kind and the stem of a file. A path is left out if it is left out for some tag.
-/

namespace ClientPlan

namespace ArtifactKind

/-- The kind of file that calls operations of a kind, where resource files exist. -/
def serving : Client.Kind → ArtifactKind
  | .retrieval => resource
  | .mutation => mutation

theorem serving_ne_model (kind : Client.Kind) : serving kind ≠ model := by
  cases kind <;> decide

theorem mutation_mem_ofTag (options : Options) : mutation ∈ ofTag options := by
  unfold ofTag
  split <;> simp

theorem resource_mem_ofTag {options : Options} :
    resource ∈ ofTag options ↔ options.resourceFiles = true := by
  unfold ofTag
  split <;> simp_all

theorem ofTag_of_off {options : Options} (hoff : options.useReactiveResource = false ∨
    options.splitResourceArtifacts = false) : ofTag options = [mutation] := by
  rcases hoff with hoff | hoff <;> simp [ofTag, Options.resourceFiles, hoff]

theorem nodup_ofTag (options : Options) : (ofTag options).Nodup := by
  unfold ofTag
  split <;> decide

theorem model_not_mem_ofTag (options : Options) : model ∉ ofTag options := by
  unfold ofTag
  split <;> decide

/-- The kinds of file of a tag are those that serve some kind of operation. -/
theorem forall_mem_ofTag {options : Options} {p : ArtifactKind → Prop} :
    (∀ kind ∈ ofTag options, p kind) ↔
      ∀ kind, serving kind ∈ ofTag options → p (serving kind) := by
  constructor
  · intro hall kind hkind
    exact hall (serving kind) hkind
  · intro hall kind hkind
    cases kind with
    | model => exact absurd hkind (model_not_mem_ofTag options)
    | mutation => exact hall .mutation hkind
    | resource => exact hall .retrieval hkind

theorem toList_pathFor (kind : ArtifactKind) (stem : String) :
    (kind.pathFor stem).toList =
      kind.folder.toList ++ '/' :: stem.toList ++ kind.suffix.toList := by
  simp [pathFor]

theorem head?_pathFor (kind : ArtifactKind) (stem : String) :
    (kind.pathFor stem).toList.head? = kind.folder.toList.head? := by
  rw [toList_pathFor, List.append_assoc]
  cases kind <;> rfl

theorem service_ne_resources (stem otherStem : List Char) :
    stem ++ "-api.ts".toList ≠ otherStem ++ "-resources.ts".toList := by
  intro heq
  have hsplit : (stem ++ "-ap".toList) ++ "i.ts".toList =
      (otherStem ++ "-resource".toList) ++ "s.ts".toList := by
    rw [List.append_assoc, List.append_assoc]
    exact heq
  have hlast := List.append_inj_right' hsplit rfl
  exact absurd hlast (by decide)

/-- Neither folders nor suffixes of different kinds can be taken for each other. -/
theorem pathFor_inj {kind other : ArtifactKind} {stem otherStem : String}
    (heq : kind.pathFor stem = other.pathFor otherStem) : kind = other ∧ stem = otherStem := by
  have hlist := congrArg String.toList heq
  have hhead := congrArg List.head? hlist
  rw [head?_pathFor, head?_pathFor] at hhead
  rw [toList_pathFor, toList_pathFor] at hlist
  -- Folders tell models from the rest; services and resources part four characters from the end.
  have hfolder : kind.folder = other.folder := by
    cases kind <;> cases other <;> first | rfl | exact absurd hhead (by decide)
  rw [hfolder, List.append_assoc, List.append_assoc] at hlist
  have hrest := (List.cons.inj (List.append_cancel_left hlist)).2
  have hkind : kind = other := by
    cases kind <;> cases other <;> first
      | rfl
      | exact absurd hfolder (by decide)
      | exact absurd hrest (service_ne_resources _ _)
      | exact absurd hrest.symm (service_ne_resources _ _)
  subst hkind
  exact ⟨rfl, String.toList_inj.mp (List.append_cancel_right hrest)⟩

theorem pathFor_injective (kind : ArtifactKind) : Function.Injective kind.pathFor :=
  fun _ _ heq => (pathFor_inj heq).2

theorem pathFor_eq_iff {kind other : ArtifactKind} {stem otherStem : String} :
    kind.pathFor stem = other.pathFor otherStem ↔ kind = other ∧ stem = otherStem := by
  constructor
  · exact pathFor_inj
  · rintro ⟨rfl, rfl⟩
    rfl

end ArtifactKind

namespace SkipSet

theorem mem_insert {path other : String} {skipped : SkipSet} :
    other ∈ insert path skipped ↔ other = path ∨ other ∈ skipped := by
  induction skipped with
  | nil => simp [insert]
  | cons head tail ih =>
      rw [insert]
      split
      next heq => simp [heq]
      next =>
        split
        next => exact List.mem_cons
        next => rw [List.mem_cons, ih, List.mem_cons, or_left_comm]

theorem mem_foldl_insert {paths : List String} {skipped : SkipSet} {path : String} :
    path ∈ paths.foldl (fun skipped path => insert path skipped) skipped ↔
      path ∈ paths ∨ path ∈ skipped := by
  induction paths generalizing skipped with
  | nil => simp
  | cons head tail ih =>
      rw [List.foldl_cons, ih, mem_insert, List.mem_cons, or_left_comm, or_assoc]

theorem sorted_insert (path : String) {skipped : SkipSet} (hsorted : skipped.Pairwise (· < ·)) :
    (insert path skipped).Pairwise (· < ·) := by
  induction skipped with
  | nil => exact List.pairwise_singleton _ _
  | cons head tail ih =>
      obtain ⟨hhead, htail⟩ := List.pairwise_cons.mp hsorted
      rw [insert]
      split
      next => exact hsorted
      next hne =>
        split
        next hlt =>
          refine List.pairwise_cons.mpr ⟨?_, hsorted⟩
          intro other hother
          rcases List.mem_cons.mp hother with rfl | hother
          · exact hlt
          · exact String.lt_trans hlt (hhead other hother)
        next hge =>
          have hlt : head < path := Std.lt_of_le_of_ne (String.not_lt.mp hge) (Ne.symm hne)
          refine List.pairwise_cons.mpr ⟨?_, ih htail⟩
          intro other hother
          rcases mem_insert.mp hother with rfl | hother
          · exact hlt
          · exact hhead other hother

/-- Paths are kept in increasing order, so each of them once. -/
theorem sorted_ofUsage (usage : TagUsage) (options : Options) (stem : String → String) :
    (ofUsage usage options stem).Pairwise (· < ·) := by
  rw [ofUsage]
  refine List.foldlRecOn _ _ List.Pairwise.nil ?_
  intro skipped hsorted path _
  exact sorted_insert path hsorted

theorem mem_ofUsage {usage : TagUsage} {options : Options} {stem : String → String}
    {path : String} :
    path ∈ ofUsage usage options stem ↔
      ∃ entry ∈ usage, path ∈ ofTag options (stem entry.1) entry.2 := by
  rw [ofUsage, mem_foldl_insert, List.mem_flatMap]
  simp only [List.not_mem_nil, or_false]

/-- A tag with operations leaves out its service if none of them is a mutation, and its resources
if there are any files for these and none of them is a retrieval. -/
theorem mem_ofTag {options : Options} {stem : String} {usage : Usage} {path : String} :
    path ∈ ofTag options stem usage ↔
      (usage.hasRetrieval = true ∨ usage.hasMutation = true) ∧
        (usage.hasMutation = false ∧ path = ArtifactKind.mutation.pathFor stem ∨
          options.resourceFiles = true ∧ usage.hasRetrieval = false ∧
            path = ArtifactKind.resource.pathFor stem) := by
  obtain ⟨hasRetrieval, hasMutation⟩ := usage
  cases hasRetrieval <;> cases hasMutation <;> cases hfiles : options.resourceFiles <;>
    simp [ofTag, hfiles]

theorem kinds_ne_nil_iff {kinds : List Client.Kind} :
    kinds ≠ [] ↔ .retrieval ∈ kinds ∨ .mutation ∈ kinds := by
  cases kinds with
  | nil => simp
  | cons head tail => cases head <;> simp

/-- A tag leaves out the file that serves a kind when it has operations, but none of that kind. -/
theorem serving_mem_ofTag {options : Options} {kind : Client.Kind}
    (hkind : ArtifactKind.serving kind ∈ ArtifactKind.ofTag options) {stem other : String}
    {kinds : List Client.Kind} :
    (ArtifactKind.serving kind).pathFor stem ∈ ofTag options other (Usage.ofKinds kinds) ↔
      stem = other ∧ kinds ≠ [] ∧ kind ∉ kinds := by
  rw [mem_ofTag, kinds_ne_nil_iff, ← Bool.not_eq_true, ← Bool.not_eq_true,
    Usage.hasRetrieval_ofKinds, Usage.hasMutation_ofKinds, ArtifactKind.pathFor_eq_iff, ArtifactKind.pathFor_eq_iff]
  cases kind with
  | retrieval =>
      have hfiles : options.resourceFiles = true := ArtifactKind.resource_mem_ofTag.mp hkind
      simp only [ArtifactKind.serving, reduceCtorEq, false_and, and_false, false_or, true_and,
        hfiles]
      tauto
  | mutation =>
      simp only [ArtifactKind.serving, reduceCtorEq, false_and, and_false, or_false, true_and]
      tauto

end SkipSet

end ClientPlan

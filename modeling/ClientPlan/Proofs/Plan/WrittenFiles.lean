import ClientPlan.Proofs.Overwriting
import ClientPlan.Proofs.Plan.Folders
import ClientPlan.Proofs.Plan.Summaries

/-! # What a run leaves behind

Paths with stems that hold no slash are the same if they lead to the same place. So a run leaves at
each planned path the text of its last file, and every other file as it was.
-/

namespace ClientPlan

open Client Files

/-! ## Places of files -/

/-- A path of some kind of file, for a stem that leads through no folder. -/
def IsFilePath (path : String) : Prop :=
  ∃ kind stem, '/' ∉ stem.toList ∧ path = ArtifactKind.pathFor kind stem

namespace ArtifactKind

theorem pathParts_pathFor (kind : ArtifactKind) {stem : String} (hstem : '/' ∉ stem.toList) :
    pathParts (kind.pathFor stem) = [kind.folder, stem ++ kind.suffix] := by
  have hfolder : '/' ∉ kind.folder.toList := by cases kind <;> decide
  have hsuffix : '/' ∉ kind.suffix.toList := by cases kind <;> decide
  have hname : '/' ∉ (stem ++ kind.suffix).toList := by
    rw [String.toList_append, List.mem_append]
    exact not_or.mpr ⟨hstem, hsuffix⟩
  have hpath : (kind.pathFor stem).toList =
      kind.folder.toList ++ '/' :: (stem ++ kind.suffix).toList := by
    rw [toList_pathFor, String.toList_append, List.append_assoc, List.cons_append]
  rw [pathParts_of_toList_eq hpath, pathParts_of_not_mem hfolder, pathParts_of_not_mem hname,
    List.singleton_append]

theorem walk?_pathFor (kind : ArtifactKind) {stem : String} (hstem : '/' ∉ stem.toList)
    (base : Place) :
    walk? base (pathParts (kind.pathFor stem)) =
      some (base ++ [kind.folder, stem ++ kind.suffix]) := by
  have hfolder : step? base kind.folder = some (base ++ [kind.folder]) := by cases kind <;> rfl
  have hname : 's' ∈ (stem ++ kind.suffix).toList := by
    rw [String.toList_append, List.mem_append]
    exact Or.inr (by cases kind <;> decide)
  rw [kind.pathParts_pathFor hstem, walk?_cons, hfolder, Option.bind_some, walk?_singleton,
    step?_of_mem hname (by decide), List.append_assoc]
  rfl

theorem pathFor_eq (kind : ArtifactKind) (stem : String) :
    kind.pathFor stem = kind.folder ++ "/" ++ (stem ++ kind.suffix) :=
  String.append_assoc

/-- The path of a file leads through the folder of its kind. -/
theorem exists_base_of_locate_pathFor {tree : Tree} {output : String} {place : Place}
    (kind : ArtifactKind) {stem : String} (hstem : '/' ∉ stem.toList)
    (hlocate : tree.locate (joinPath output (kind.pathFor stem)) = .ok place) :
    ∃ base, resolve? output = some base ∧ place = base ++ [kind.folder, stem ++ kind.suffix] := by
  have hhead : (kind.pathFor stem).toList.head? ≠ some '/' := by
    rw [head?_pathFor]
    cases kind <;> decide
  have hplace := resolve?_of_locate hlocate
  rw [resolve?_joinPath hhead] at hplace
  obtain ⟨base, hbase, hwalk⟩ := Option.bind_eq_some_iff.mp hplace
  rw [kind.walk?_pathFor hstem] at hwalk
  exact ⟨base, hbase, (Option.some.inj hwalk).symm⟩

end ArtifactKind

/-- Paths of files that lead to one place are equal. -/
theorem IsFilePath.eq_of_locate {path other output : String} (hpath : IsFilePath path)
    (hother : IsFilePath other) {tree : Tree} {place : Place}
    (hplace : tree.locate (joinPath output path) = .ok place)
    (hsame : tree.locate (joinPath output other) = .ok place) : path = other := by
  obtain ⟨kind, stem, hstem, rfl⟩ := hpath
  obtain ⟨kind', stem', hstem', rfl⟩ := hother
  obtain ⟨base, hbase, rfl⟩ := kind.exists_base_of_locate_pathFor hstem hplace
  obtain ⟨base', hbase', heq⟩ := kind'.exists_base_of_locate_pathFor hstem' hsame
  -- Both go from the place of the output folder.
  obtain rfl : base = base' := Option.some.inj (hbase.symm.trans hbase')
  have hnames := List.append_cancel_left heq
  rw [List.cons.injEq, List.cons.injEq] at hnames
  obtain ⟨hfolder, hname, _⟩ := hnames
  rw [ArtifactKind.pathFor_eq, ArtifactKind.pathFor_eq, hfolder, hname]

namespace Files.Tree

/-- The file that a path leads to is the same in two trees, or it is in neither. -/
structure KeepsFile (before after : Tree) (path : String) : Prop where
  locate_eq : ∀ place, before.locate path = .ok place → after.locate path = .ok place
  file?_eq : ∀ place, after.locate path = .ok place → after.file? place = before.file? place

theorem readText_of_file? {tree : Tree} {path contents : String} {place : Place}
    (hlocate : tree.locate path = .ok place) (hfile : tree.file? place = some (.text contents)) :
    tree.readText path = .ok contents := by
  have hentry : tree.get? place = some (.text contents) := by
    rw [file?] at hfile
    split at hfile
    next => cases hfile
    next => exact hfile
  simp [readText, entry?, hlocate, hentry]

end Files.Tree

namespace Plan

/-! ## Stems -/

/-- The stems of the files of models and tags. -/
def stems (plan : Plan) : List String :=
  plan.models.map Model.fileName ++ plan.apis.map Api.fileName

section

variable {plan : Plan}

theorem not_mem_skipSet_of_mem_plannedFiles {file : PlannedFile}
    (hfile : file ∈ plan.plannedFiles) : file.path ∉ plan.skipSet := by
  simpa using (List.mem_filter.mp hfile).2

theorem exists_stem_of_mem_plannedFiles {file : PlannedFile} (hfile : file ∈ plan.plannedFiles) :
    ∃ stem ∈ plan.stems, file.path = file.kind.pathFor stem := by
  rcases List.mem_append.mp (List.mem_filter.mp hfile).1 with hmodel | hapi
  · obtain ⟨hkind, model, hindex, hpath⟩ := mem_modelFiles.mp hmodel
    have hmem : model.fileName ∈ plan.models.map Model.fileName :=
      List.mem_map_of_mem (List.mem_of_getElem? hindex)
    exact ⟨model.fileName, List.mem_append_left _ hmem, hkind ▸ hpath⟩
  · obtain ⟨_, api, hindex, hpath⟩ := mem_apiFiles.mp hapi
    have hmem : api.fileName ∈ plan.apis.map Api.fileName :=
      List.mem_map_of_mem (List.mem_of_getElem? hindex)
    exact ⟨api.fileName, List.mem_append_right _ hmem, hpath⟩

variable (hstems : ∀ stem ∈ plan.stems, '/' ∉ stem.toList)

include hstems

theorem isFilePath_of_mem_plannedFiles {file : PlannedFile} (hfile : file ∈ plan.plannedFiles) :
    IsFilePath file.path := by
  obtain ⟨stem, hstem, hpath⟩ := exists_stem_of_mem_plannedFiles hfile
  exact ⟨file.kind, stem, hstems stem hstem, hpath⟩

theorem isFilePath_of_mem_skipSet {options : Options} {document : OpenApi.Document}
    (hplan : ofDocument (.angular options) document = .ok plan) {path : String}
    (hpath : path ∈ plan.skipSet) : IsFilePath path := by
  obtain ⟨api, hapi, hpath⟩ := (mem_skipSet_iff hplan).mp hpath
  have hstem : '/' ∉ api.fileName.toList :=
    hstems _ (List.mem_append_right _ (List.mem_map_of_mem hapi))
  rcases hpath with ⟨_, rfl⟩ | ⟨_, _, rfl⟩
  · exact ⟨.mutation, api.fileName, hstem, rfl⟩
  · exact ⟨.resource, api.fileName, hstem, rfl⟩

end

/-! ## Texts that are left -/

section

variable {plan : Plan} {overrides : Overrides} {output : String}

theorem leaves?_append (tree : Tree) (first second : List PlannedFile) (place : Place) :
    plan.leaves? overrides output tree (first ++ second) place =
      (plan.leaves? overrides output tree second place).or
        (plan.leaves? overrides output tree first place) := by
  rw [leaves?, List.reverse_append, List.findSome?_append]
  rfl

theorem leaves?_eq_none {tree : Tree} {files : List PlannedFile} {place : Place}
    (helsewhere : ∀ file ∈ files, tree.locate (joinPath output file.path) ≠ .ok place) :
    plan.leaves? overrides output tree files place = none := by
  by_contra hsome
  obtain ⟨text, htext⟩ := Option.ne_none_iff_exists'.mp hsome
  obtain ⟨file, hfile, hlocate⟩ := exists_of_leaves?_eq_some htext
  exact helsewhere file hfile hlocate

theorem leaves?_of_lastOf? {tree : Tree} {files : List PlannedFile} {last : PlannedFile}
    {text : String} {place : Place} (hpaths : ∀ file ∈ files, IsFilePath file.path)
    (hlast : lastOf? PlannedFile.path last.path files = some last)
    (hrender : plan.render overrides last = .ok text)
    (hlocate : tree.locate (joinPath output last.path) = .ok place) :
    plan.leaves? overrides output tree files place = some text := by
  obtain ⟨earlier, later, rfl, hlater⟩ := exists_append_of_lastOf? _ hlast
  have hmem : last ∈ earlier ++ last :: later := List.mem_append_right _ List.mem_cons_self
  -- A later file has another path, so it leads to another place.
  have hothers : plan.leaves? overrides output tree later place = none := by
    refine leaves?_eq_none fun file hfile hsame => hlater file hfile ?_
    have hfile' : file ∈ earlier ++ last :: later :=
      List.mem_append_right _ (List.mem_cons_of_mem last hfile)
    exact (hpaths file hfile').eq_of_locate (hpaths last hmem) hsame hlocate
  rw [leaves?_append, leaves?_cons hrender hlocate, hothers, if_pos rfl]
  rfl

end

section

variable {plan : Plan} (hstems : ∀ stem ∈ plan.stems, '/' ∉ stem.toList) {overrides : Overrides}
  {output : String}

include hstems

/-- Each planned path holds the text of its last file. -/
theorem exists_text_of_wrote {before after : Tree}
    (hwrote : plan.Wrote overrides output plan.plannedFiles before after) {file : PlannedFile}
    (hfile : file ∈ plan.plannedFiles) :
    ∃ last text, lastOf? PlannedFile.path file.path plan.plannedFiles = some last ∧
      plan.render overrides last = .ok text ∧
        after.readText (joinPath output file.path) = .ok text := by
  obtain ⟨last, hlast⟩ := exists_lastOf? PlannedFile.path hfile
  have hpath : last.path = file.path := label_of_lastOf? _ hlast
  obtain ⟨text, place, hrender, hlocate⟩ := hwrote.placed last (mem_of_lastOf? _ hlast)
  have hleaves : plan.leaves? overrides output after plan.plannedFiles place = some text :=
    leaves?_of_lastOf? (fun _ hmem => isFilePath_of_mem_plannedFiles hstems hmem)
      (hpath ▸ hlast) hrender hlocate
  refine ⟨last, text, hlast, hrender, ?_⟩
  rw [← hpath]
  refine Tree.readText_of_file? hlocate ?_
  rw [hwrote.file?_eq, hleaves]
  rfl

theorem keepsFile_of_wrote {before after : Tree}
    (hwrote : plan.Wrote overrides output plan.plannedFiles before after) {path : String}
    (hpath : IsFilePath path) (hplanned : path ∉ plan.plannedFiles.map PlannedFile.path) :
    before.KeepsFile after (joinPath output path) where
  locate_eq _ hlocate := Tree.locate_of_keepsFolders hwrote.keepsFolders hlocate
  file?_eq place hlocate := by
    rw [hwrote.file?_eq, leaves?_eq_none]
    · rfl
    · intro file hfile hsame
      have hfilePath := isFilePath_of_mem_plannedFiles hstems hfile
      rw [hpath.eq_of_locate hfilePath hlocate hsame] at hplanned
      exact hplanned (List.mem_map_of_mem hfile)

end

/-- Two components that share a file, and a tag without a service. -/
def sharedFile : OpenApi.Document where
  paths := [("/status", { get := some { tags := some ["status"] } })]
  components := some
    { schemas := some
        [("APIKey", { type := some (.single "string") }),
          ("ApiKey", { type := some (.single "integer") })] }

/-- A tree with an earlier model, a service that was written by hand, and a file beside the output. -/
def usedTree : Tree where
  entries :=
    [(["notes.txt"], .text "keep"), (["generated"], .folder), (["generated", "models"], .folder),
      (["generated", "models", "api-key.ts"], .text "old"), (["generated", "api"], .folder),
      (["generated", "api", "status-api.ts"], .text "mine")]

end Plan

end ClientPlan

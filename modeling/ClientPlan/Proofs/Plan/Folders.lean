import ClientPlan.Proofs.Files.Inside
import ClientPlan.Proofs.Name.Slug
import ClientPlan.Proofs.Plan.ModelFiles
import ClientPlan.Proofs.Plan.Writing

/-! # Folders of planned files

Files of tags lie in their folder, since a tag is a word. The name of a component may hold slashes
and double points, which its slug keeps, so the file of a model lies where the name leads.
-/

namespace ClientPlan

open Files

/-! ## Stems -/

/-- The folders that a name goes through lead to a folder or to a place in it. -/
def StaysIn (folder name : String) : Prop :=
  ∃ inner, walk? [folder] ((pathParts name).dropLast.map Name.slug) = some (folder :: inner)

theorem pathParts_slug (name : String) :
    pathParts (Name.slug name) = (pathParts name).map Name.slug :=
  Name.splitString_slug name

theorem pathParts_of_not_mem {name : String} (hname : '/' ∉ name.toList) :
    pathParts name = [name] := by
  rw [pathParts, Text.splitString, Text.splitOn_of_not_mem hname, List.map_singleton,
    String.ofList_toList]

theorem staysIn_of_not_mem (folder : String) {name : String}
    (hname : ".." ∉ (pathParts name).dropLast) : StaysIn folder name := by
  have hslugs : ".." ∉ (pathParts name).dropLast.map Name.slug := by
    intro hmem
    obtain ⟨part, hpart, hslug⟩ := List.mem_map.mp hmem
    rw [Name.eq_of_slug_eq (by decide) hslug] at hpart
    exact hname hpart
  exact exists_walk?_eq [folder] hslugs

theorem staysIn_of_isWord (folder : String) {name : String} (hname : Name.IsWord name.toList) :
    StaysIn folder name := by
  refine staysIn_of_not_mem folder ?_
  rw [pathParts_of_not_mem fun hslash => absurd (hname '/' hslash) (by decide)]
  exact List.not_mem_nil

namespace ArtifactKind

theorem exists_pathParts_pathFor (kind : ArtifactKind) (stem : String) :
    ∃ last, pathParts (kind.pathFor stem) =
      kind.folder :: ((pathParts stem).dropLast ++ [last ++ kind.suffix]) := by
  have hfolder : '/' ∉ kind.folder.toList := by cases kind <;> decide
  have hsuffix : '/' ∉ kind.suffix.toList := by cases kind <;> decide
  obtain ⟨parts, last, hparts, hlast⟩ := Text.exists_splitOn_append hsuffix stem.toList
  refine ⟨String.ofList last, ?_⟩
  have hpath : (kind.pathFor stem).toList =
      kind.folder.toList ++ '/' :: (stem ++ kind.suffix).toList := by
    rw [toList_pathFor, String.toList_append, List.append_assoc, List.cons_append]
  rw [pathParts_of_toList_eq hpath, pathParts_of_not_mem hfolder, List.singleton_append]
  simp only [pathParts, Text.splitString, String.toList_append, hparts, hlast]
  simp

theorem inside_pathFor_iff (kind : ArtifactKind) (stem : String) :
    Inside kind.folder (kind.pathFor stem) ↔
      ∃ inner, walk? [kind.folder] (pathParts stem).dropLast = some (kind.folder :: inner) := by
  obtain ⟨last, hparts⟩ := kind.exists_pathParts_pathFor stem
  have hfolder : step? [] kind.folder = some [kind.folder] := by cases kind <;> rfl
  have hname : ∀ place, step? place (last ++ kind.suffix) = some (place ++ [last ++ kind.suffix]) := by
    intro place
    refine step?_of_mem (c := 's') ?_ (by decide) place
    rw [String.toList_append, List.mem_append]
    exact Or.inr (by cases kind <;> decide)
  rw [Inside, resolve?, hparts, walk?_cons, hfolder, Option.bind_some, walk?_append]
  cases hwalk : walk? [kind.folder] (pathParts stem).dropLast with
  | none => simp
  | some place =>
      simp only [Option.bind_some, walk?_singleton, hname, Option.some.injEq]
      constructor
      · rintro ⟨inner, hne, heq⟩
        cases place with
        | nil =>
            obtain ⟨_, rfl⟩ := List.cons.inj heq
            exact absurd rfl hne
        | cons first rest => exact ⟨rest, by rw [(List.cons.inj heq).1]⟩
      · rintro ⟨inner, rfl⟩
        exact ⟨inner ++ [last ++ kind.suffix], by simp, rfl⟩

theorem inside_pathFor_slug_iff (kind : ArtifactKind) (name : String) :
    Inside kind.folder (kind.pathFor (Name.slug name)) ↔ StaysIn kind.folder name := by
  rw [inside_pathFor_iff, pathParts_slug, ← List.map_dropLast]
  rfl

end ArtifactKind

namespace Plan

/-! ## Planned files -/

theorem isWord_of_mem_listedTags {op : OpenApi.Operation} {tag : String}
    (htag : tag ∈ op.listedTags) : Name.IsWord tag.toList := by
  unfold OpenApi.Operation.listedTags at htag
  split at htag
  next =>
    rw [List.mem_singleton.mp htag]
    decide
  next =>
    rw [List.mem_singleton.mp htag]
    decide
  next =>
    obtain ⟨raw, _, rfl⟩ := List.mem_map.mp (List.mem_eraseDups.mp htag)
    exact Name.isWord_tag raw

section

variable {options : Options} {document : OpenApi.Document} {plan : Plan}
  (hplan : ofDocument (.angular options) document = .ok plan)

include hplan

theorem isWord_tag_of_mem_apis {api : Api} (hapi : api ∈ plan.apis) :
    Name.IsWord api.tag.toList := by
  have htag : api.tag ∈ plan.apis.map Api.tag := List.mem_map_of_mem hapi
  rw [map_tag_of_ok hplan, List.mem_eraseDups] at htag
  obtain ⟨op, hop, htag⟩ := List.mem_flatMap.mp htag
  obtain ⟨path, shared, method, source, rfl⟩ := mem_outlined hop
  have htags := Outline.tags_eq_listedTags options source
  rw [Outline.operation, htags] at htag
  exact isWord_of_mem_listedTags htag

/-- A planned file has its path from the name of a component or from a tag. -/
theorem exists_name_of_mem_plannedFiles {file : PlannedFile} (hfile : file ∈ plan.plannedFiles) :
    ∃ name, file.path = file.kind.pathFor (Name.slug name) ∧
      (file.kind = .model → name ∈ document.schemas.keys) ∧
      (file.kind ≠ .model → Name.IsWord name.toList) := by
  by_cases hkind : file.kind = .model
  · rw [mem_plannedFiles_of_eq_model hplan hkind] at hfile
    obtain ⟨_, model, hindex, hpath⟩ := mem_modelFiles.mp hfile
    have hmodel := List.mem_of_getElem? hindex
    refine ⟨model.name, ?_, ?_, fun hne => absurd hkind hne⟩
    · rw [hkind, hpath, fileName_of_mem_models hplan hmodel]
    · intro _
      rw [← map_name_models_of_ok hplan]
      exact List.mem_map_of_mem hmodel
  · obtain ⟨hmem, _⟩ := (mem_plannedFiles_of_ne_model hkind).mp hfile
    obtain ⟨_, api, hindex, hpath⟩ := mem_apiFiles.mp hmem
    have hapi := List.mem_of_getElem? hindex
    refine ⟨api.tag, ?_, fun heq => absurd heq hkind, ?_⟩
    · rw [hpath, fileName_of_ok hplan hapi]
    · intro _
      exact isWord_tag_of_mem_apis hplan hapi

theorem exists_planned_of_mem_keys {name : String} (hname : name ∈ document.schemas.keys) :
    ∃ file ∈ plan.plannedFiles, file.kind = .model ∧
      file.path = file.kind.pathFor (Name.slug name) := by
  rw [← map_name_models_of_ok hplan] at hname
  obtain ⟨model, hmodel, rfl⟩ := List.mem_map.mp hname
  obtain ⟨index, hindex⟩ := List.mem_iff_getElem?.mp hmodel
  refine ⟨_, mem_plannedFiles_of_getElem? hplan hindex, rfl, ?_⟩
  rw [fileName_of_mem_models hplan hmodel]

theorem inside_of_ne_model {file : PlannedFile} (hfile : file ∈ plan.plannedFiles)
    (hkind : file.kind ≠ .model) : Inside file.kind.folder file.path := by
  obtain ⟨name, hpath, _, hname⟩ := exists_name_of_mem_plannedFiles hplan hfile
  rw [hpath, ArtifactKind.inside_pathFor_slug_iff]
  exact staysIn_of_isWord _ (hname hkind)

theorem forall_inside_iff :
    (∀ file ∈ plan.plannedFiles, Inside file.kind.folder file.path) ↔
      ∀ name ∈ document.schemas.keys, StaysIn "models" name := by
  constructor
  · intro hinside name hname
    obtain ⟨file, hfile, hkind, hpath⟩ := exists_planned_of_mem_keys hplan hname
    have hin := hinside file hfile
    rw [hpath, ArtifactKind.inside_pathFor_slug_iff, hkind] at hin
    exact hin
  · intro hstays file hfile
    by_cases hkind : file.kind = .model
    · obtain ⟨name, hpath, hname, _⟩ := exists_name_of_mem_plannedFiles hplan hfile
      rw [hpath, ArtifactKind.inside_pathFor_slug_iff, hkind]
      exact hstays name (hname hkind)
    · exact inside_of_ne_model hplan hfile hkind

theorem head?_path_ne_slash {file : PlannedFile} (hfile : file ∈ plan.plannedFiles) :
    file.path.toList.head? ≠ some '/' := by
  obtain ⟨name, hpath, _⟩ := exists_name_of_mem_plannedFiles hplan hfile
  rw [hpath, ArtifactKind.head?_pathFor]
  cases file.kind <;> decide

end

/-! ## Files that change -/

section

variable {plan : Plan} {overrides : Overrides} {output : String}

theorem exists_of_leaves?_eq_some {tree : Tree} {files : List PlannedFile} {place : Place}
    {text : String} (hleaves : plan.leaves? overrides output tree files place = some text) :
    ∃ file ∈ files, tree.locate (joinPath output file.path) = .ok place := by
  obtain ⟨file, hfile, hfound⟩ := List.exists_of_findSome?_eq_some hleaves
  refine ⟨file, List.mem_reverse.mp hfile, ?_⟩
  split at hfound
  next found hlocate =>
    split at hfound
    next heq => rw [hlocate, heq]
    next => cases hfound
  next => cases hfound

/-- A file that changes is where the path of a planned file leads. -/
theorem exists_planned_of_changed {before after : Workspace}
    {outcome : Except Failure (List String)}
    (hrun : runIn (plan.writeAll overrides output) before = (outcome, after)) {place : Place}
    (hchanged : after.tree.file? place ≠ before.tree.file? place) :
    ∃ file ∈ plan.plannedFiles, after.tree.locate (joinPath output file.path) = .ok place := by
  obtain ⟨written, hwritten, hwrote⟩ : ∃ written, written ⊆ plan.plannedFiles ∧
      plan.Wrote overrides output written before.tree after.tree := by
    rcases writeAll_cases hrun with ⟨written, failing, rest, _, hfiles, _, _, hwrote⟩ | ⟨_, hwrote⟩
    · exact ⟨written, hfiles ▸ List.subset_append_left written (failing :: rest), hwrote⟩
    · exact ⟨plan.plannedFiles, List.Subset.refl _, hwrote⟩
  rw [hwrote.file?_eq] at hchanged
  cases hleaves : plan.leaves? overrides output after.tree written place with
  | none => exact absurd (by rw [hleaves]; rfl) hchanged
  | some text =>
      obtain ⟨file, hfile, hlocate⟩ := exists_of_leaves?_eq_some hleaves
      exact ⟨file, hwritten hfile, hlocate⟩

end

theorem exists_base_of_locate {tree : Tree} {output path folder : String} {place : Place}
    (hinside : Inside folder path) (hpath : path.toList.head? ≠ some '/')
    (hlocate : tree.locate (joinPath output path) = .ok place) :
    ∃ base, resolve? output = some base ∧ ∃ inner, inner ≠ [] ∧
      place = base ++ folder :: inner := by
  obtain ⟨inner, hne, hresolve⟩ := hinside
  have hplace := resolve?_of_locate hlocate
  rw [resolve?_joinPath hpath] at hplace
  obtain ⟨base, hbase, hwalk⟩ := Option.bind_eq_some_iff.mp hplace
  have hunder := walk?_under hresolve base
  rw [List.append_nil, hwalk] at hunder
  exact ⟨base, hbase, inner, hne, Option.some.inj hunder⟩

/-- All planned files lie in the folders of their kinds exactly if the name of each component stays
in the folder of models. Then files change below these folders of the output only, however a run
ends. -/
theorem outputs_inside_iff {options : Options} {document : OpenApi.Document} {plan : Plan}
    (hplan : ofDocument (.angular options) document = .ok plan) :
    ((∀ file ∈ plan.plannedFiles, Inside file.kind.folder file.path) ↔
        ∀ name ∈ document.schemas.keys, StaysIn "models" name) ∧
      ((∀ name ∈ document.schemas.keys, StaysIn "models" name) →
        ∀ overrides output before outcome after,
          runIn (plan.writeAll overrides output) before = (outcome, after) →
            ∀ place, after.tree.file? place ≠ before.tree.file? place →
              ∃ base, resolve? output = some base ∧ ∃ file ∈ plan.plannedFiles,
                ∃ inner, inner ≠ [] ∧ place = base ++ file.kind.folder :: inner) := by
  refine ⟨forall_inside_iff hplan, ?_⟩
  intro hstays overrides output before outcome after hrun place hchanged
  obtain ⟨file, hfile, hlocate⟩ := exists_planned_of_changed hrun hchanged
  have hinside := (forall_inside_iff hplan).mpr hstays file hfile
  obtain ⟨base, hbase, inner, hne, hplace⟩ :=
    exists_base_of_locate hinside (head?_path_ne_slash hplan hfile) hlocate
  exact ⟨base, hbase, file, hfile, inner, hne, hplace⟩

/-- Models in folders of their own, one of which is reached over a detour, and a tag that only looks
like a path. -/
def scattered : OpenApi.Document where
  paths := [("/strays", { get := some { tags := some ["../stray"] } })]
  components := some
    { schemas := some
        [("Pet", { type := some (.single "string") }),
          ("toys/Ball", { type := some (.single "string") }),
          ("../models/Cat", { type := some (.single "string") })] }

theorem outputs_inside_iff_scattered :
    ∃ plan, ofDocument (.angular {}) scattered = .ok plan ∧
      plan.plannedFiles.map PlannedFile.path =
        ["models/pet.ts", "models/toys/ball.ts", "models/../models/cat.ts",
          "api/stray-resources.ts"] ∧
      ∀ file ∈ plan.plannedFiles, Inside file.kind.folder file.path := by
  have hplan := ofDocument_of_lenient {} scattered rfl
  refine ⟨_, hplan, by decide +kernel, (outputs_inside_iff hplan).1.mpr ?_⟩
  have hkeys : scattered.schemas.keys = ["Pet", "toys/Ball", "../models/Cat"] := rfl
  rw [hkeys, List.forall_mem_cons, List.forall_mem_cons, List.forall_mem_singleton]
  refine ⟨staysIn_of_not_mem "models" (by decide), staysIn_of_not_mem "models" (by decide), [], ?_⟩
  decide +kernel

/-- A component whose name leads out of the folder of models. -/
def escape : OpenApi.Document where
  components := some { schemas := some [("../escape", { type := some (.single "string") })] }

/-- Its file is written beside the folder. -/
theorem not_inside_escape :
    ∃ plan after, ofDocument (.angular {}) escape = .ok plan ∧
      plan.plannedFiles = [⟨"models/../escape.ts", .model, 0⟩] ∧
      ¬ Inside "models" "models/../escape.ts" ∧
      runIn (plan.writeAll {} "generated") {} = (.ok ["generated/models/../escape.ts"], after) ∧
      after.tree.file? ["generated", "escape.ts"] ≠ Tree.file? {} ["generated", "escape.ts"] := by
  have hresolve : resolve? "models/../escape.ts" = some ["escape.ts"] := by decide +kernel
  have hwritten : (runIn ((outcome {} escape).writeAll {} "generated") {}).1 =
      .ok ["generated/models/../escape.ts"] := by
    decide +kernel
  refine ⟨_, _, ofDocument_of_lenient {} escape rfl, by decide +kernel, ?_,
    Prod.ext hwritten rfl, by decide +kernel⟩
  rintro ⟨inner, _, hinner⟩
  rw [hresolve] at hinner
  exact absurd (List.cons.inj (Option.some.inj hinner)).1 (by decide)

end Plan

end ClientPlan

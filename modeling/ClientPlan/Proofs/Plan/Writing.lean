import ClientPlan.Generation
import ClientPlan.Proofs.Files.Workspace
import ClientPlan.Proofs.Plan.Outcome

/-! # Writing planned files

Planned files are rendered and written one by one. A file that cannot be rendered ends the run, and
those that are written before it stay.
-/

namespace ClientPlan.Plan

open Files

variable (plan : Plan) (overrides : Overrides) (output : String)

/-- Why a run fails at a file: the file is not rendered, or it is not written. -/
inductive FailsAt (file : PlannedFile) : Failure → Prop where
  | template {error : TemplateError} (hrender : plan.render overrides file = .error error) :
      FailsAt file (.template error)
  | write {text : String} (hrender : plan.render overrides file = .ok text) (path : String)
      (fault : Fault) : FailsAt file (.write path fault)

/-- The text that some files leave at a place when they are written one after another: that of the
last one whose path leads there. -/
def leaves? (tree : Tree) (files : List PlannedFile) (place : Place) : Option String :=
  files.reverse.findSome? fun file =>
    match tree.locate (joinPath output file.path) with
    | .ok found => if found = place then (plan.render overrides file).toOption else none
    | .error _ => none

/-- One tree becomes another by writing some files. -/
structure Wrote (files : List PlannedFile) (before after : Tree) : Prop where
  keepsFolders : before.KeepsFolders after
  placed : ∀ file ∈ files, ∃ text place, plan.render overrides file = .ok text ∧
    after.locate (joinPath output file.path) = .ok place
  file?_eq : ∀ place, after.file? place =
    ((plan.leaves? overrides output after files place).map Entry.text).or (before.file? place)

variable {plan overrides output}

/-! ## One file -/

/-- A file is written at the place that its path leads to, or it fails and no file changes. -/
theorem writeFile_cases {file : PlannedFile} {before after : Workspace}
    {outcome : Except Failure String}
    (hrun : runIn (plan.writeFile overrides output file) before = (outcome, after)) :
    (∃ failure, outcome = .error failure ∧ plan.FailsAt overrides file failure ∧
        before.tree.Grows after.tree) ∨
      ∃ text place, outcome = .ok (joinPath output file.path) ∧
        plan.render overrides file = .ok text ∧
        after.tree.locate (joinPath output file.path) = .ok place ∧
        before.tree.Gains after.tree place text := by
  rw [writeFile, runIn_bind, runIn_mk_pure] at hrun
  cases hrender : plan.render overrides file with
  | error error =>
      rw [hrender] at hrun
      obtain ⟨rfl, rfl⟩ := Prod.mk.inj hrun
      exact Or.inl ⟨_, rfl, .template hrender, .refl before.tree⟩
  | ok text =>
      obtain ⟨ensured, middle, hensured, hgrows⟩ :=
        onlyGrows_ensureFolders (ε := Failure) (folders (joinPath output file.path)) before
      rw [hrender] at hrun
      simp only [Except.mapError, runIn_bind, hensured] at hrun
      cases ensured with
      | error fault =>
          obtain ⟨rfl, rfl⟩ := Prod.mk.inj hrun
          exact Or.inl ⟨_, rfl, .write hrender _ fault, hgrows⟩
      | ok =>
          simp only [runIn_bind, runIn_writeText] at hrun
          cases hwrite : middle.tree.writeText (joinPath output file.path) text with
          | error fault =>
              rw [hwrite] at hrun
              obtain ⟨rfl, rfl⟩ := Prod.mk.inj hrun
              exact Or.inl ⟨_, rfl, .write hrender _ fault, hgrows⟩
          | ok tree =>
              rw [hwrite] at hrun
              obtain ⟨rfl, rfl⟩ := Prod.mk.inj hrun
              obtain ⟨place, hlocate, hgains⟩ := Tree.gains_of_writeText hwrite
              exact Or.inr ⟨text, place, rfl, rfl,
                Tree.locate_of_keepsFolders hgains.keepsFolders hlocate, hgrows.trans_gains hgains⟩

/-! ## Some files -/

theorem leaves?_cons {tree : Tree} {file : PlannedFile} {text : String} {place : Place}
    (hrender : plan.render overrides file = .ok text)
    (hlocate : tree.locate (joinPath output file.path) = .ok place) (files : List PlannedFile)
    (other : Place) :
    plan.leaves? overrides output tree (file :: files) other =
      (plan.leaves? overrides output tree files other).or
        (if place = other then some text else none) := by
  simp [leaves?, List.findSome?_append, hrender, hlocate, Except.toOption]

theorem wrote_nil {before after : Tree} (hgrows : before.Grows after) :
    plan.Wrote overrides output [] before after where
  keepsFolders := hgrows.keepsFolders
  placed := by simp
  file?_eq place := hgrows.file?_eq place

theorem Wrote.cons {before middle after : Tree} {file : PlannedFile} {files : List PlannedFile}
    {text : String} {place : Place} (hrender : plan.render overrides file = .ok text)
    (hlocate : middle.locate (joinPath output file.path) = .ok place)
    (hgains : before.Gains middle place text)
    (hwrote : plan.Wrote overrides output files middle after) :
    plan.Wrote overrides output (file :: files) before after := by
  have hafter := Tree.locate_of_keepsFolders hwrote.keepsFolders hlocate
  constructor
  · exact hgains.keepsFolders.trans hwrote.keepsFolders
  · exact List.forall_mem_cons.mpr ⟨⟨text, place, hrender, hafter⟩, hwrote.placed⟩
  · intro other
    rw [hwrote.file?_eq, hgains.file?_eq, leaves?_cons hrender hafter]
    cases plan.leaves? overrides output after files other with
    | some last => rfl
    | none => by_cases hother : place = other <;> simp [hother]

theorem mapM_writeFile_cases {files : List PlannedFile} {before after : Workspace}
    {outcome : Except Failure (List String)}
    (hrun : runIn (files.mapM (plan.writeFile overrides output)) before = (outcome, after)) :
    (∃ written failing rest failure, files = written ++ failing :: rest ∧
        outcome = .error failure ∧ plan.FailsAt overrides failing failure ∧
        plan.Wrote overrides output written before.tree after.tree) ∨
      outcome = .ok (files.map fun file => joinPath output file.path) ∧
        plan.Wrote overrides output files before.tree after.tree := by
  -- The first file is written or ends the run, and the others run on the tree that it leaves.
  induction files generalizing before after outcome with
  | nil =>
      obtain ⟨rfl, rfl⟩ := Prod.mk.inj hrun
      exact Or.inr ⟨rfl, wrote_nil (.refl before.tree)⟩
  | cons file rest ih =>
      rw [List.mapM_cons, runIn_bind] at hrun
      obtain ⟨first, middle, hfirst⟩ :
          ∃ first middle, runIn (plan.writeFile overrides output file) before = (first, middle) :=
        ⟨_, _, rfl⟩
      rw [hfirst] at hrun
      rcases writeFile_cases hfirst with
        ⟨failure, rfl, hfails, hgrows⟩ | ⟨text, place, rfl, hrender, hlocate, hgains⟩
      · obtain ⟨rfl, rfl⟩ := Prod.mk.inj hrun
        exact Or.inl ⟨[], file, rest, failure, rfl, rfl, hfails, wrote_nil hgrows⟩
      · obtain ⟨others, last, hothers⟩ :
            ∃ others last,
              runIn (rest.mapM (plan.writeFile overrides output)) middle = (others, last) :=
          ⟨_, _, rfl⟩
        simp only [runIn_bind, hothers] at hrun
        rcases ih hothers with
          ⟨written, failing, final, failure, rfl, rfl, hfails, hwrote⟩ | ⟨rfl, hwrote⟩
        · obtain ⟨rfl, rfl⟩ := Prod.mk.inj hrun
          exact Or.inl ⟨file :: written, failing, final, failure, rfl, rfl, hfails,
            hwrote.cons hrender hlocate hgains⟩
        · obtain ⟨rfl, rfl⟩ := Prod.mk.inj hrun
          exact Or.inr ⟨rfl, hwrote.cons hrender hlocate hgains⟩

/-- A run writes all planned files, or those before the one at which it fails. -/
theorem writeAll_cases {before after : Workspace} {outcome : Except Failure (List String)}
    (hrun : runIn (plan.writeAll overrides output) before = (outcome, after)) :
    (∃ written failing rest failure, plan.plannedFiles = written ++ failing :: rest ∧
        outcome = .error failure ∧ plan.FailsAt overrides failing failure ∧
        plan.Wrote overrides output written before.tree after.tree) ∨
      outcome = .ok (plan.plannedFiles.map fun file => joinPath output file.path) ∧
        plan.Wrote overrides output plan.plannedFiles before.tree after.tree := by
  rw [writeAll, runIn_bind] at hrun
  obtain ⟨written, last, hwritten⟩ :
      ∃ written last,
        runIn (plan.plannedFiles.mapM (plan.writeFile overrides output)) before = (written, last) :=
    ⟨_, _, rfl⟩
  rw [hwritten] at hrun
  rcases mapM_writeFile_cases hwritten with
    ⟨written, failing, rest, failure, hfiles, rfl, hfails, hwrote⟩ | ⟨rfl, hwrote⟩
  · obtain ⟨rfl, rfl⟩ := Prod.mk.inj hrun
    exact Or.inl ⟨written, failing, rest, failure, hfiles, rfl, hfails, hwrote⟩
  · obtain ⟨rfl, rfl⟩ := Prod.mk.inj hrun
    exact Or.inr ⟨rfl, hwrote⟩

/-! ## Template errors -/

theorem Wrote.unchanged_iff {files : List PlannedFile} {before after : Tree}
    (hwrote : plan.Wrote overrides output files before after) :
    (∀ place, after.file? place = before.file? place) ↔
      ∀ place text, plan.leaves? overrides output after files place = some text →
        before.file? place = some (.text text) := by
  refine forall_congr' fun place => ?_
  rw [hwrote.file?_eq]
  cases plan.leaves? overrides output after files place with
  | none => simp
  | some text => simp [eq_comm]

/-- A template error comes from the first planned file that cannot be rendered. The files before it
are written, so no file is created or changed exactly if each of them was there with its text. -/
theorem template_error_changes_nothing_iff {error : TemplateError} {before after : Workspace}
    (hrun : runIn (plan.writeAll overrides output) before = (.error (.template error), after)) :
    ∃ written failing rest, plan.plannedFiles = written ++ failing :: rest ∧
      plan.render overrides failing = .error error ∧
      plan.Wrote overrides output written before.tree after.tree ∧
      ((∀ place, after.tree.file? place = before.tree.file? place) ↔
        ∀ place text, plan.leaves? overrides output after.tree written place = some text →
          before.tree.file? place = some (.text text)) := by
  rcases writeAll_cases hrun with
    ⟨written, failing, rest, failure, hfiles, houtcome, hfails, hwrote⟩ | ⟨houtcome, _⟩
  · obtain rfl := Except.error.inj houtcome
    cases hfails with
    | template hrender =>
        exact ⟨written, failing, rest, hfiles, hrender, hwrote, hwrote.unchanged_iff⟩
  · cases houtcome

/-- An apple, and a basket that holds something unknown. -/
def strangeBasket : OpenApi.Document where
  components := some
    { schemas := some
        [("Apple", { type := some (.single "string") }),
          ("Basket",
            { properties := some
                [("content", { reference := some "#/components/schemas/Gone" })] })] }

/-- The tree in which the apple is written. -/
def appleTree : Tree where
  entries :=
    [(["generated"], .folder), (["generated", "models"], .folder),
      (["generated", "models", "apple.ts"],
        .text "// Generated by ngen. Do not edit.\n\nexport type Apple = string;\n")]

theorem template_error_changes_nothing_iff_strangeBasket :
    ∃ plan after, ofDocument (.angular {}) strangeBasket = .ok plan ∧
      runIn (plan.writeAll {} "generated") { tree := appleTree } =
        (.error (.template ⟨"model.ts.tera"⟩), after) ∧
      ∀ place, after.tree.file? place = appleTree.file? place := by
  have hrun : runIn ((outcome {} strangeBasket).writeAll {} "generated") { tree := appleTree } =
      (.error (.template ⟨"model.ts.tera"⟩),
        { tree := appleTree, records := [.wrote "generated/models/apple.ts" .model] }) := by
    decide +kernel
  have hfiles : (outcome {} strangeBasket).plannedFiles =
      [⟨"models/apple.ts", .model, 0⟩, ⟨"models/basket.ts", .model, 1⟩] := by
    decide +kernel
  have hrender : (outcome {} strangeBasket).render {} ⟨"models/apple.ts", .model, 0⟩ =
      .ok "// Generated by ngen. Do not edit.\n\nexport type Apple = string;\n" := by
    decide +kernel
  have hlocate : appleTree.locate (joinPath "generated" "models/apple.ts") =
      .ok ["generated", "models", "apple.ts"] := by
    decide +kernel
  obtain ⟨written, failing, rest, hsplit, hfails, _, hiff⟩ :=
    template_error_changes_nothing_iff hrun
  refine ⟨_, _, ofDocument_of_lenient {} strangeBasket rfl, hrun, hiff.mpr ?_⟩
  rw [hfiles] at hsplit
  -- The apple is rendered, so the basket fails.
  have hwritten : written = [⟨"models/apple.ts", .model, 0⟩] := by
    match written, hsplit with
    | [], hsplit =>
        obtain ⟨rfl, _⟩ := List.cons.inj hsplit
        rw [hrender] at hfails
        cases hfails
    | [first], hsplit => rw [(List.cons.inj hsplit).1]
    | _ :: _ :: more, hsplit =>
        have hlast := (List.cons.inj (List.cons.inj hsplit).2).2
        exact absurd hlast.symm (by simp)
  intro place text hleaves
  rw [hwritten, leaves?_cons hrender hlocate] at hleaves
  by_cases hplace : ["generated", "models", "apple.ts"] = place
  · subst hplace
    obtain rfl := Option.some.inj hleaves
    decide +kernel
  · rw [if_neg hplace] at hleaves
    cases hleaves

/-- The apple is written before the basket fails. -/
theorem not_unchanged_strangeBasket :
    ∃ plan after, ofDocument (.angular {}) strangeBasket = .ok plan ∧
      runIn (plan.writeAll {} "generated") {} =
        (.error (.template ⟨"model.ts.tera"⟩), after) ∧
      ¬ ∀ place, after.tree.file? place = Tree.file? {} place := by
  have hrun : runIn ((outcome {} strangeBasket).writeAll {} "generated") {} =
      (.error (.template ⟨"model.ts.tera"⟩),
        { tree := appleTree, records := [.wrote "generated/models/apple.ts" .model] }) := by
    decide +kernel
  refine ⟨_, _, ofDocument_of_lenient {} strangeBasket rfl, hrun, ?_⟩
  intro hunchanged
  exact absurd (hunchanged ["generated", "models", "apple.ts"]) (by decide +kernel)

end ClientPlan.Plan

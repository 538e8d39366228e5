import ClientPlan.Proofs.Files.Tree

/-! # Runs in a workspace

Steps that may fail run on a workspace one after another. Asking for folders never fails by itself,
and changes no file.
-/

namespace ClientPlan.Files

variable {ε α β : Type}

/-! ## Steps -/

/-- How a run ends in a workspace, and what becomes of the workspace. -/
def runIn (run : ExceptT ε InWorkspace α) (workspace : Workspace) : Except ε α × Workspace :=
  run.run.run workspace

theorem runIn_mk_pure (outcome : Except ε α) (workspace : Workspace) :
    runIn (ExceptT.mk (pure outcome)) workspace = (outcome, workspace) := rfl

/-- What comes after a step runs on the workspace that the step leaves, unless the step fails. -/
theorem runIn_bind (step : ExceptT ε InWorkspace α) (next : α → ExceptT ε InWorkspace β)
    (workspace : Workspace) :
    runIn (step >>= next) workspace =
      match runIn step workspace with
      | (.ok value, after) => runIn (next value) after
      | (.error error, after) => (.error error, after) := by
  rw [runIn, runIn, ExceptT.run_bind, StateT.run_bind]
  rcases step.run.run workspace with ⟨_ | _, _⟩ <;> rfl

theorem runIn_change (f : Tree → Except Fault Tree) (workspace : Workspace) :
    runIn (ε := ε) (ExceptT.lift (InWorkspace.change f)) workspace =
      match f workspace.tree with
      | .ok tree => (.ok (.ok ()), { workspace with tree := tree })
      | .error fault => (.ok (.error fault), workspace) := by
  have hrun : runIn (ε := ε) (ExceptT.lift (InWorkspace.change f)) workspace =
      (.ok (InWorkspace.change f workspace).1, (InWorkspace.change f workspace).2) := rfl
  rw [hrun, InWorkspace.change]
  cases f workspace.tree <;> rfl

theorem runIn_writeText (path contents : String) (workspace : Workspace) :
    runIn (ε := ε) (writeText path contents) workspace =
      match workspace.tree.writeText path contents with
      | .ok tree => (.ok (.ok ()), { workspace with tree := tree })
      | .error fault => (.ok (.error fault), workspace) :=
  runIn_change (fun tree => tree.writeText path contents) workspace

/-! ## Steps that change no file -/

/-- A run does not fail, and changes a workspace by folders alone. -/
def OnlyGrows (run : ExceptT ε InWorkspace α) : Prop :=
  ∀ workspace, ∃ value after, runIn run workspace = (.ok value, after) ∧
    workspace.tree.Grows after.tree

theorem onlyGrows_pure (value : α) : OnlyGrows (pure value : ExceptT ε InWorkspace α) :=
  fun workspace => ⟨value, workspace, rfl, .refl workspace.tree⟩

theorem OnlyGrows.bind {step : ExceptT ε InWorkspace α} {next : α → ExceptT ε InWorkspace β}
    (hstep : OnlyGrows step) (hnext : ∀ value, OnlyGrows (next value)) :
    OnlyGrows (step >>= next) := by
  intro workspace
  obtain ⟨value, middle, hmiddle, hfirst⟩ := hstep workspace
  obtain ⟨last, after, hafter, hsecond⟩ := hnext value middle
  refine ⟨last, after, ?_, hfirst.trans hsecond⟩
  rw [runIn_bind, hmiddle]
  exact hafter

theorem onlyGrows_isFolder (path : String) :
    OnlyGrows (isFolder path : ExceptT ε InWorkspace Bool) :=
  fun workspace => ⟨_, workspace, rfl, .refl workspace.tree⟩

theorem onlyGrows_makeFolder (path : String) :
    OnlyGrows (makeFolder path : ExceptT ε InWorkspace (Except Fault Unit)) := by
  intro workspace
  have hrun := runIn_change (ε := ε) (fun tree => tree.makeFolder path) workspace
  cases hmake : workspace.tree.makeFolder path with
  | error fault =>
      rw [hmake] at hrun
      exact ⟨_, workspace, hrun, .refl workspace.tree⟩
  | ok tree =>
      rw [hmake] at hrun
      exact ⟨_, _, hrun, Tree.grows_of_makeFolder hmake⟩

theorem onlyGrows_ensureFolder (path : String) :
    OnlyGrows (ensureFolder path : ExceptT ε InWorkspace (Except Fault Unit)) := by
  refine (onlyGrows_makeFolder path).bind fun made => ?_
  cases made with
  | ok => exact onlyGrows_pure _
  | error fault =>
      refine (onlyGrows_isFolder path).bind fun present => ?_
      cases present <;> exact onlyGrows_pure _

theorem onlyGrows_ensureFolders (paths : List String) :
    OnlyGrows (ensureFolders paths : ExceptT ε InWorkspace (Except Fault Unit)) := by
  induction paths with
  | nil => exact onlyGrows_pure _
  | cons path outer ih =>
      rw [ensureFolders]
      split
      next => exact onlyGrows_pure _
      next =>
        -- Outer folders are asked for after the first attempt, and then the folder once more.
        refine (onlyGrows_ensureFolder path).bind fun ensured => ?_
        split
        next => exact onlyGrows_pure _
        next =>
          refine ih.bind fun ensured => ?_
          cases ensured with
          | ok => exact onlyGrows_ensureFolder path
          | error fault => exact onlyGrows_pure _
        next => exact onlyGrows_pure _

end ClientPlan.Files

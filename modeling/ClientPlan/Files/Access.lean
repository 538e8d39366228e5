import ClientPlan.Files.Fault
import ClientPlan.Files.Path
import ClientPlan.Log.Record

/-! # Access to files

What a run needs of the outside: reading and writing files, making folders, and a log. -/

namespace ClientPlan.Files

/-- A monad with access to files and to a log. -/
class Access (m : Type → Type) where
  /-- The text of a file. -/
  readText : String → m (Except Fault String)
  /-- Whether a path leads to a file. -/
  isFile : String → m Bool
  /-- Whether a path leads to a folder. -/
  isFolder : String → m Bool
  /-- Makes one folder. -/
  makeFolder : String → m (Except Fault Unit)
  /-- Writes a file, which may exist. -/
  writeText : String → String → m (Except Fault Unit)
  /-- Reports a record. -/
  log : Log.Record → m Unit

export Access (readText isFile isFolder makeFolder writeText log)

variable {m : Type → Type} [Monad m] [Access m]

/-- Access does not fail by itself; what fails is what is made of its outcome. -/
instance {ε : Type} : Access (ExceptT ε m) where
  readText path := ExceptT.lift (readText path)
  isFile path := ExceptT.lift (isFile path)
  isFolder path := ExceptT.lift (isFolder path)
  makeFolder path := ExceptT.lift (makeFolder path)
  writeText path text := ExceptT.lift (writeText path text)
  log record := ExceptT.lift (log record)

/-- Makes a folder unless it exists. -/
def ensureFolder (path : String) : m (Except Fault Unit) := do
  match ← makeFolder path with
  | .ok () => return .ok ()
  | .error fault => if ← isFolder path then return .ok () else return .error fault

/-- Makes the first of some folders unless it exists, and before it those of the others that it
needs. The empty path is the current folder. -/
def ensureFolders : List String → m (Except Fault Unit)
  | [] => return .ok ()
  | path :: outer => do
    if path.isEmpty then return .ok ()
    match ← ensureFolder path with
    | .ok () => return .ok ()
    | .error .missing =>
      match ← ensureFolders outer with
      | .ok () => ensureFolder path
      | .error fault => return .error fault
    | .error fault => return .error fault

end ClientPlan.Files

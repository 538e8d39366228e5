import ClientPlan.Files.Access

/-! # File trees

A folder with all that is in it, as a map from places to entries, and access to files in it. -/

namespace ClientPlan.Files

/-- What is at a place. -/
inductive Entry where
  | folder
  | text (contents : String)
  /-- A file that is no UTF-8 text. -/
  | binary (bytes : List UInt8)
  deriving DecidableEq, Inhabited, Repr

/-- A place in a tree: the names of the folders that lead to it, and its own name. -/
abbrev Place := List String

/-- The entries of a tree, each at its place. The tree itself is the folder at the empty place. -/
structure Tree where
  entries : List (Place × Entry) := []
  deriving DecidableEq, Inhabited, Repr

namespace Tree

/-- The entry at a place in a list of entries. -/
def getIn (place : Place) : List (Place × Entry) → Option Entry
  | [] => none
  | (other, entry) :: rest => if other = place then some entry else getIn place rest

/-- The entry at a place. -/
def get? (tree : Tree) (place : Place) : Option Entry :=
  if place.isEmpty then some .folder else getIn place tree.entries

/-- Sets an entry of a list of entries. -/
def setIn (place : Place) (entry : Entry) : List (Place × Entry) → List (Place × Entry)
  | [] => [(place, entry)]
  | (other, old) :: rest =>
    if other = place then (place, entry) :: rest else (other, old) :: setIn place entry rest

/-- The tree with an entry set. -/
def set (tree : Tree) (place : Place) (entry : Entry) : Tree :=
  { tree with entries := setIn place entry tree.entries }

theorem getIn_setIn (place other : Place) (entry : Entry) (entries : List (Place × Entry)) :
    getIn other (setIn place entry entries) =
      if place = other then some entry else getIn other entries := by
  induction entries with
  | nil => simp [setIn, getIn]
  | cons first rest ih =>
    obtain ⟨key, old⟩ := first
    by_cases hk : key = place
    · subst hk
      by_cases h : key = other <;> simp [setIn, getIn, h]
    · by_cases ho : key = other
      · subst ho
        simp [setIn, getIn, hk, Ne.symm hk]
      · simp [setIn, getIn, hk, ho, ih]

theorem get?_set {tree : Tree} {place : Place} (hplace : place ≠ []) (other : Place)
    (entry : Entry) :
    (tree.set place entry).get? other = if place = other then some entry else tree.get? other := by
  by_cases ho : other = []
  · subst ho
    simp [get?, hplace]
  · simp [get?, set, ho, getIn_setIn]

/-- The longest name, in bytes. -/
def nameLimit : Nat := 255

/-- The length in bytes from which on a path is too long. -/
def pathLimit : Nat := 4096

/-- Follows the parts of a path from a place. Every part but the last leads through a folder; the
place that is reached may be free. -/
def follow (tree : Tree) : Place → List String → Except Fault Place
  | place, [] => .ok place
  | place, part :: rest =>
    match tree.get? place with
    | none => .error .missing
    | some .folder =>
      if part = "" || part = "." then follow tree place rest
      else if part = ".." then
        if place.isEmpty then .error .missing else follow tree place.dropLast rest
      else if nameLimit < part.utf8ByteSize then .error .nameTooLong
      else follow tree (place ++ [part]) rest
    | some _ => .error .noFolder

/-- The place that a path leads to. Only paths from the current folder lead into the tree. -/
def locate (tree : Tree) (path : String) : Except Fault Place :=
  if path.toList.contains '\x00' then .error .nulInPath
  else if path.isEmpty then .error .missing
  else if pathLimit ≤ path.utf8ByteSize then .error .nameTooLong
  else if path.toList.head? = some '/' then .error .missing
  else follow tree [] (pathParts path)

/-- The entry that a path leads to. -/
def entry? (tree : Tree) (path : String) : Except Fault Entry :=
  match tree.locate path with
  | .error fault => .error fault
  | .ok place => (tree.get? place).elim (.error .missing) .ok

/-- The text of a file. -/
def readText (tree : Tree) (path : String) : Except Fault String :=
  match tree.entry? path with
  | .error fault => .error fault
  | .ok .folder => .error .isFolder
  | .ok (.text contents) => .ok contents
  | .ok (.binary _) => .error .notText

/-- Whether a path leads to a file. -/
def isFile (tree : Tree) (path : String) : Bool :=
  match tree.entry? path with
  | .ok (.text _) => true
  | .ok (.binary _) => true
  | _ => false

/-- Whether a path leads to a folder. -/
def isFolder (tree : Tree) (path : String) : Bool :=
  match tree.entry? path with
  | .ok .folder => true
  | _ => false

/-- The tree with one more folder. -/
def makeFolder (tree : Tree) (path : String) : Except Fault Tree :=
  match tree.locate path with
  | .error fault => .error fault
  | .ok place =>
    if (tree.get? place).isSome then .error .present else .ok (tree.set place .folder)

/-- The tree with a file written. -/
def writeText (tree : Tree) (path contents : String) : Except Fault Tree :=
  match tree.locate path with
  | .error fault => .error fault
  | .ok place =>
    match tree.get? place with
    | some .folder => .error .isFolder
    | _ => .ok (tree.set place (.text contents))

end Tree

/-- A tree and the records of the log. -/
structure Workspace where
  tree : Tree := {}
  records : List Log.Record := []
  deriving DecidableEq, Inhabited, Repr

/-- Computations on a workspace. -/
abbrev InWorkspace := StateM Workspace

/-- Changes the tree, unless that fails. -/
def InWorkspace.change (f : Tree → Except Fault Tree) : InWorkspace (Except Fault Unit) :=
  fun workspace =>
    match f workspace.tree with
    | .ok tree => (.ok (), { workspace with tree := tree })
    | .error fault => (.error fault, workspace)

instance : Access InWorkspace where
  readText path := return (← get).tree.readText path
  isFile path := return (← get).tree.isFile path
  isFolder path := return (← get).tree.isFolder path
  makeFolder path := InWorkspace.change fun tree => tree.makeFolder path
  writeText path contents := InWorkspace.change fun tree => tree.writeText path contents
  log record := modify fun workspace =>
    { workspace with records := workspace.records ++ [record] }

end ClientPlan.Files

import ClientPlan.Text.Replace

/-! # Paths

Paths as texts: joining, and the folders that a path goes through. -/

namespace ClientPlan.Files

open Text

/-- The path of a file below a folder. An empty folder is the current one, and a path from the root
stands for itself. -/
def joinPath (folder file : String) : String :=
  if folder.isEmpty || file.toList.head? = some '/' then file
  else if folder.toList.getLast? = some '/' then folder ++ file
  else folder ++ "/" ++ file

/-- The parts of a path between slashes. -/
def pathParts (path : String) : List String :=
  splitString '/' path

/-- Drops the parts at the end that lead nowhere: empty ones, and single points that are not the
first part. The parts come the last first. -/
def trimParts : List String → List String
  | [] => []
  | [first] => [first]
  | part :: rest => if part = "" || part = "." then trimParts rest else part :: rest

/-- The path of some parts, the last first. -/
def pathOf (parts : List String) : String :=
  match parts with
  | [""] => "/"
  | _ => "/".intercalate parts.reverse

theorem length_trimParts_le (parts : List String) : (trimParts parts).length ≤ parts.length := by
  fun_induction trimParts parts with
  | case1 => exact Nat.le_refl _
  | case2 => exact Nat.le_refl _
  | case3 part rest _ _ ih => exact Nat.le_succ_of_le ih
  | case4 => exact Nat.le_refl _

/-- The paths of the folders that some parts go through, from the innermost to the current folder;
the parts come the last first. -/
def foldersAbove : List String → List String
  | [] => []
  | [""] => []
  | [_] => [""]
  | _ :: rest =>
    have := length_trimParts_le rest
    pathOf (trimParts rest) :: foldersAbove (trimParts rest)
  termination_by parts => parts.length
  decreasing_by simp only [List.length_cons]; omega

/-- The folders that a path goes through, from the innermost to the current folder. -/
def folders (path : String) : List String :=
  foldersAbove (trimParts (pathParts path).reverse)

end ClientPlan.Files

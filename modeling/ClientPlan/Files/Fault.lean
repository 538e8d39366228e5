/-! # Faults of files

Why a file or a folder cannot be read or made. -/

namespace ClientPlan.Files

/-- Why something fails. -/
inductive Fault where
  | missing
  | present
  | noFolder
  | isFolder
  | nameTooLong
  /-- The file is no UTF-8 text. -/
  | notText
  /-- The path holds a character that no path may hold. -/
  | nulInPath
  | other (words : String)
  deriving DecidableEq, Inhabited, Repr

/-- The wording of a fault. -/
def Fault.message : Fault → String
  | missing => "No such file or directory (os error 2)"
  | present => "File exists (os error 17)"
  | noFolder => "Not a directory (os error 20)"
  | isFolder => "Is a directory (os error 21)"
  | nameTooLong => "File name too long (os error 36)"
  | notText => "stream did not contain valid UTF-8"
  | nulInPath => "file name contained an unexpected NUL byte"
  | other words => words

end ClientPlan.Files

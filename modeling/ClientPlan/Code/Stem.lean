import ClientPlan.Client.Model
import ClientPlan.Text.Replace

/-! # Finding the files of imports

A model that a file imports is found by its name, written as a quoted step of a path. A bracket
begins or ends a step, a quote ends one, and a slash is escaped; so a name that holds such a
character need not be found. -/

namespace ClientPlan.Code

open Client Text

/-- What becomes of brackets, quotes and slashes, one after the other. -/
def pathMarks : List (String × String) :=
  [("/", "~1"), ("['", ".\""), ("[\"", ".\""), ("[", "."), ("']", "\""), ("\"]", "\""), ("]", "")]

/-- A name as a path. -/
def namePath (name : String) : List Char :=
  pathMarks.foldl (fun text mark => replace mark.1.toList mark.2.toList text)
    ('"' :: name.toList ++ ['"'])

/-- A text without the quotes at both of its ends. -/
def trimQuotes (text : List Char) : List Char :=
  ((text.dropWhile (· = '"')).reverse.dropWhile (· = '"')).reverse

/-- The steps of a path: text between quotes, or text up to the next point. -/
def pathSteps : Nat → List Char → List (List Char)
  | 0, _ => []
  | _, [] => []
  | fuel + 1, '.' :: rest => pathSteps fuel rest
  | fuel + 1, c :: rest =>
    match (if c = '"' then splitOnce '"' rest else none) with
    | some (step, rest) => step :: pathSteps fuel rest
    | none =>
      let step := (c :: rest).takeWhile (· ≠ '.')
      trimQuotes step :: pathSteps fuel ((c :: rest).drop step.length)

/-- The name that a step stands for. -/
def stepName (step : List Char) : String :=
  String.ofList (replace "~0".toList ['~'] (replace "~1".toList ['/'] step))

/-- The file stem of the model that a name finds. -/
def stem? (models : List Model) (name : String) : Option String :=
  let path := namePath name
  match pathSteps path.length path with
  | [step] => (models.find? fun model => model.name = stepName step).map Model.fileName
  | _ => none

end ClientPlan.Code

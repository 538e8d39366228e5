/-! # Replacement and splitting

Replacing every occurrence of a word from left to right, and cutting a text at a separator. -/

namespace ClientPlan.Text

/-- Replaces each occurrence of `word`, from left to right and without overlaps; the first
`skip` characters belong to an occurrence already replaced. -/
def replaceAfter (word by_ : List Char) : Nat → List Char → List Char
  | _, [] => []
  | skip + 1, _ :: rest => replaceAfter word by_ skip rest
  | 0, c :: rest =>
    if word.isPrefixOf (c :: rest) then by_ ++ replaceAfter word by_ (word.length - 1) rest
    else c :: replaceAfter word by_ 0 rest

/-- Replaces each occurrence of the non-empty `word`. -/
def replace (word by_ text : List Char) : List Char :=
  replaceAfter word by_ 0 text

/-- The parts of a text between the separators, one more than there are separators. -/
def splitOn (separator : Char) : List Char → List (List Char)
  | [] => [[]]
  | c :: rest =>
    if c = separator then [] :: splitOn separator rest
    else
      match splitOn separator rest with
      | [] => [[c]]
      | part :: parts => (c :: part) :: parts

/-- The parts of a string between the separators. -/
def splitString (separator : Char) (text : String) : List String :=
  (splitOn separator text.toList).map String.ofList

/-- The text before and after the first separator. -/
def splitOnce (separator : Char) : List Char → Option (List Char × List Char)
  | [] => none
  | c :: rest =>
    if c = separator then some ([], rest)
    else (splitOnce separator rest).map fun parts => (c :: parts.1, parts.2)

/-- The rest of a text that begins with the given word. -/
def dropWord? : List Char → List Char → Option (List Char)
  | [], text => some text
  | _ :: _, [] => none
  | w :: word, c :: text => if w = c then dropWord? word text else none

end ClientPlan.Text

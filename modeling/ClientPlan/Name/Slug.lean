import ClientPlan.Text.Case

/-! # File slugs

The kebab-case stem of a file that holds a named thing. A hyphen goes between a small letter and
a capital, and before the last capital of a run that a small letter follows. -/

namespace ClientPlan.Name

open Text

/-- Puts a hyphen between a small letter and the capital after it. -/
def splitLowerUpper : List Char → List Char
  | c :: d :: rest =>
    if isAsciiLower c && isAsciiUpper d then c :: '-' :: d :: splitLowerUpper rest
    else c :: splitLowerUpper (d :: rest)
  | text => text

/-- Puts a hyphen before the last of several capitals that a small letter follows; `capitals`
are the capitals just read, the latest first. -/
def splitAcronymsAfter (capitals : List Char) : List Char → List Char
  | [] => capitals.reverse
  | c :: rest =>
    if isAsciiUpper c then splitAcronymsAfter (c :: capitals) rest
    else
      match capitals with
      | last :: previous :: more =>
        if isAsciiLower c then
          (previous :: more).reverse ++ '-' :: last :: c :: splitAcronymsAfter [] rest
        else capitals.reverse ++ c :: splitAcronymsAfter [] rest
      | _ => capitals.reverse ++ c :: splitAcronymsAfter [] rest

/-- Puts a hyphen before the last capital of each acronym that runs into a word. -/
def splitAcronyms (text : List Char) : List Char :=
  splitAcronymsAfter [] text

/-- The kebab-case file stem of a name. -/
def slug (name : String) : String :=
  String.ofList (lower (splitAcronyms (splitLowerUpper name.toList)))

end ClientPlan.Name

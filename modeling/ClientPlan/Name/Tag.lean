import ClientPlan.Name.Identifier

/-! # Tags

A tag is brought into Pascal case, so that it can name a class and a file. -/

namespace ClientPlan.Name

open Text

/-- The form of a tag by which operations are grouped: a tag without letters or digits is
`Default`, and one that begins with a digit gets `Tag` in front. -/
def tag (raw : String) : String :=
  let name := pascal (String.ofList (wordChars raw.toList))
  match name.toList with
  | [] => "Default"
  | c :: _ => if isAsciiDigit c then "Tag" ++ name else name

/-- The service class of a tag. -/
def apiClass (tag : String) : String :=
  pascal tag ++ "Api"

end ClientPlan.Name

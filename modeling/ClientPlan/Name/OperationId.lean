import ClientPlan.Name.Identifier
import ClientPlan.Text.Blank
import ClientPlan.Text.Replace

/-! # Operation ids

The method name of an operation, from its declared id or from its verb and path. -/

namespace ClientPlan.Name

open Text

/-- The text without the digits at its end. -/
def dropTrailingDigits (text : List Char) : List Char :=
  (text.reverse.dropWhile isAsciiDigit).reverse

/-- The method name for a declared id: camel case without leading underscores and trailing
digits, or `operation` where nothing is left. -/
def operationId (declared : String) : String :=
  let name := dropTrailingDigits
    ((camelChars (wordChars declared.toList)).dropWhile (· = '_'))
  if (trim name).isEmpty then "operation" else String.ofList (lowerFirst name)

/-- A path segment that is neither empty nor begins with a brace. -/
def isLiteralSegment (segment : List Char) : Bool :=
  match segment with
  | [] => false
  | c :: _ => c ≠ '{'

/-- The method name of an operation without an id: its verb and the literal segments of its
path. -/
def synthesizedId (verb path : String) : String :=
  let segments := (splitOn '/' path.toList).filter isLiteralSegment
  operationId (String.ofList (lower verb.toList ++ '_' :: ['_'].intercalate segments))

/-- The interface that holds the query parameters of an operation. -/
def queryInterface (operationId : String) : String :=
  pascal operationId ++ "Params"

end ClientPlan.Name

import ClientPlan.Text.Blank
import ClientPlan.Text.Replace

/-! # Placeholders

A raw path is literal text with placeholders in it. A placeholder is written in the document form,
a name in braces, or in the encoded form, an interpolated call whose `value:` entry holds the name.
Reading goes from left to right, and what is no placeholder is literal text. -/

namespace ClientPlan.PathTemplate

open Text

/-- A placeholder as it is written, and the text of the name it holds. -/
structure Placeholder where
  source : List Char
  inner : List Char
  deriving DecidableEq, Repr

/-- The name of a placeholder, without the blanks around it. -/
def Placeholder.name (placeholder : Placeholder) : String :=
  String.ofList (trim placeholder.inner)

/-- A raw path is cut into literal characters and placeholders. -/
inductive Segment where
  | literal (c : Char)
  | placeholder (placeholder : Placeholder)
  deriving DecidableEq, Repr

/-- Characters that a name in the document form may hold. -/
def isNameChar (c : Char) : Bool :=
  c ≠ '{' && c ≠ '}' && c ≠ '/'

/-- The placeholder in the document form that the text begins with. -/
def documentForm? : List Char → Option Placeholder
  | '{' :: rest =>
    let inner := rest.takeWhile isNameChar
    match rest.dropWhile isNameChar with
    | '}' :: _ => if inner.isEmpty then none else some ⟨'{' :: inner ++ ['}'], inner⟩
    | _ => none
  | _ => none

/-- What the encoded form begins with. -/
def encodedStart : List Char :=
  "$\x7bthis.configuration.encodeParam(".toList

/-- What stands before the name in the encoded form. -/
def valueMark : List Char :=
  "value: ".toList

/-- Characters that a name in the encoded form may hold. -/
def isValueChar (c : Char) : Bool :=
  c ≠ ',' && c ≠ '}'

/-- The rest of the encoded form after the name: it runs to the first closing parenthesis, which
a closing brace must follow. -/
def encodedTail? (text : List Char) : Option (List Char) :=
  match text.dropWhile (· ≠ ')') with
  | ')' :: '}' :: _ => some (text.takeWhile (· ≠ ')') ++ [')', '}'])
  | _ => none

/-- The name and the tail after the value mark: of the first `length` characters, the longest name
that a tail can follow. -/
def encodedName? (text : List Char) : Nat → Option (List Char × List Char)
  | 0 => none
  | length + 1 =>
    match encodedTail? (text.drop (length + 1)) with
    | some tail => some (text.take (length + 1), tail)
    | none => encodedName? text length

/-- The arguments of an encoded form: the text before the name, the name, and the tail. -/
structure EncodedArguments where
  before : List Char
  inner : List Char
  tail : List Char

/-- The arguments whose value mark the text begins with. -/
def markedArguments? (text : List Char) : Option EncodedArguments :=
  match dropWord? valueMark text with
  | some rest =>
    match encodedName? rest (rest.takeWhile isValueChar).length with
    | some (inner, tail) => some ⟨valueMark, inner, tail⟩
    | none => none
  | none => none

/-- The arguments with the earliest value mark that a name and a tail can follow, no parenthesis
being closed before it. -/
def encodedArguments? : List Char → Option EncodedArguments
  | [] => none
  | c :: rest =>
    match markedArguments? (c :: rest) with
    | some found => some found
    | none =>
      if c = ')' then none
      else
        match encodedArguments? rest with
        | some found => some { found with before := c :: found.before }
        | none => none

/-- The placeholder in the encoded form that the text begins with. -/
def encodedForm? (text : List Char) : Option Placeholder :=
  match dropWord? encodedStart text with
  | some rest =>
    match encodedArguments? rest with
    | some found => some ⟨encodedStart ++ found.before ++ found.inner ++ found.tail, found.inner⟩
    | none => none
  | none => none

/-- The placeholder that the text begins with. -/
def placeholder? (text : List Char) : Option Placeholder :=
  match encodedForm? text with
  | some placeholder => some placeholder
  | none => documentForm? text

/-- The segments of a raw path; the first `skip` characters belong to a placeholder already
read. -/
def segmentsAfter : Nat → List Char → List Segment
  | _, [] => []
  | skip + 1, _ :: rest => segmentsAfter skip rest
  | 0, c :: rest =>
    match placeholder? (c :: rest) with
    | some found => .placeholder found :: segmentsAfter (found.source.length - 1) rest
    | none => .literal c :: segmentsAfter 0 rest

/-- The segments of a raw path. -/
def segments (raw : List Char) : List Segment :=
  segmentsAfter 0 raw

end ClientPlan.PathTemplate

import ClientPlan.Text.Case

/-! # Identifiers

Camel and Pascal case: separators are dropped and the character after one is upper-cased. -/

namespace ClientPlan.Name

open Text

/-- Hyphen and underscore separate the words of a name. -/
def isSeparator (c : Char) : Bool :=
  c = '-' || c = '_'

/-- Drops the separators and upper-cases each character after one; `raised` tells whether a
separator has just been read. -/
def joinWords (raised : Bool) : List Char → List Char
  | [] => []
  | c :: rest =>
    if isSeparator c then joinWords true rest
    else (if raised then upperChar c else [c]) ++ joinWords false rest

/-- The camel-case form of a name, as characters. -/
def camelChars (name : List Char) : List Char :=
  lowerFirst (joinWords false name)

/-- The camel-case form of a name. -/
def camel (name : String) : String :=
  String.ofList (camelChars name.toList)

/-- A string with its first character upper-cased. -/
def capitalize (text : String) : String :=
  String.ofList (upperFirst text.toList)

/-- The Pascal-case form of a name. -/
def pascal (name : String) : String :=
  capitalize (camel name)

/-- Replaces each character that is no ASCII letter or digit by an underscore. -/
def wordChars (name : List Char) : List Char :=
  name.map fun c => if isAsciiAlnum c then c else '_'

end ClientPlan.Name

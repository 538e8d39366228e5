import ClientPlan.Json.Basic

/-! # JSON text

Values are written on one line without blanks, or over several lines with two blanks for each
level. Only quotes, backslashes and control characters are escaped. -/

namespace ClientPlan.Json

/-- A hexadecimal digit in lower case. -/
def hexDigit (value : Nat) : Char :=
  if value < 10 then Char.ofNat (48 + value) else Char.ofNat (87 + value)

/-- A character as it stands in a quoted string. -/
def escapeChar (c : Char) : List Char :=
  if c = '"' then ['\\', '"']
  else if c = '\\' then ['\\', '\\']
  else if c.toNat = 8 then ['\\', 'b']
  else if c.toNat = 9 then ['\\', 't']
  else if c.toNat = 10 then ['\\', 'n']
  else if c.toNat = 12 then ['\\', 'f']
  else if c.toNat = 13 then ['\\', 'r']
  else if c.toNat < 32 then
    ['\\', 'u', '0', '0', hexDigit (c.toNat / 16), hexDigit (c.toNat % 16)]
  else [c]

/-- A string in quotes. -/
def quote (text : String) : String :=
  String.ofList ('"' :: text.toList.flatMap escapeChar ++ ['"'])

/-- A decimal fraction in plain notation where it is short, and with an exponent otherwise. -/
def decimalText (digits exponent : Int) : String :=
  if exponent ≥ 0 then
    toString digits ++ String.ofList (List.replicate exponent.toNat '0') ++ ".0"
  else
    let places := (-exponent).toNat
    let body := (toString digits.natAbs).toList
    let padded := List.replicate (places + 1 - body.length) '0' ++ body
    let split := padded.length - places
    (if digits < 0 then "-" else "") ++
      String.ofList (padded.take split ++ '.' :: padded.drop split)

/-- The text of a number. -/
def Number.text : Number → String
  | .int value => toString value
  | .decimal digits exponent => decimalText digits exponent

mutual

/-- The text of a value on one line, without blanks. -/
def compact : Json → String
  | null => "null"
  | bool true => "true"
  | bool false => "false"
  | number value => value.text
  | string value => quote value
  | array items => "[" ++ compactItems true items ++ "]"
  | object members => "\x7b" ++ compactMembers true members ++ "\x7d"

/-- The items of a list with commas between them; `first` tells whether none is written yet. -/
def compactItems (first : Bool) : List Json → String
  | [] => ""
  | item :: rest => (if first then "" else ",") ++ compact item ++ compactItems false rest

/-- The members of an object with commas between them. -/
def compactMembers (first : Bool) : List (String × Json) → String
  | [] => ""
  | (name, value) :: rest =>
    (if first then "" else ",") ++ quote name ++ ":" ++ compact value ++
      compactMembers false rest

end

/-- The line break and the indentation before an item at the given level. -/
def newLine (level : Nat) : String :=
  String.ofList ('\n' :: List.replicate (2 * level) ' ')

mutual

/-- The text of a value over several lines, at the given level. -/
def prettyAt (level : Nat) : Json → String
  | array [] => "[]"
  | array items => "[" ++ prettyItems (level + 1) true items ++ newLine level ++ "]"
  | object [] => "\x7b\x7d"
  | object members =>
    "\x7b" ++ prettyMembers (level + 1) true members ++ newLine level ++ "\x7d"
  | null => "null"
  | bool true => "true"
  | bool false => "false"
  | number value => value.text
  | string value => quote value

/-- The items of a list, each on a line of its own. -/
def prettyItems (level : Nat) (first : Bool) : List Json → String
  | [] => ""
  | item :: rest =>
    (if first then "" else ",") ++ newLine level ++ prettyAt level item ++
      prettyItems level false rest

/-- The members of an object, each on a line of its own. -/
def prettyMembers (level : Nat) (first : Bool) : List (String × Json) → String
  | [] => ""
  | (name, value) :: rest =>
    (if first then "" else ",") ++ newLine level ++ quote name ++ ": " ++ prettyAt level value ++
      prettyMembers level false rest

end

/-- The text of a value over several lines, with two blanks for each level. -/
def pretty (value : Json) : String :=
  prettyAt 0 value

end ClientPlan.Json

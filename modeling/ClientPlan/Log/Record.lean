/-! # Log records

What a run reports of itself: a level, the part of the program that reports it, a message and named
values. -/

namespace ClientPlan.Log

/-- How much a record matters. -/
inductive Level where
  | error
  | warn
  | info
  | debug
  | trace
  deriving DecidableEq, Inhabited, Repr

namespace Level

/-- Every level, from the one that matters most. -/
def all : List Level :=
  [error, warn, info, debug, trace]

/-- The word for a level. -/
def word : Level → String
  | error => "ERROR"
  | warn => "WARN"
  | info => "INFO"
  | debug => "DEBUG"
  | trace => "TRACE"

/-- The rank of a level: the less it matters, the greater. -/
def rank : Level → Nat
  | error => 1
  | warn => 2
  | info => 3
  | debug => 4
  | trace => 5

end Level

/-- A record. -/
structure Record where
  level : Level
  /-- The part of the program. -/
  target : String
  message : String
  /-- The names of the values, and how the values are written. -/
  fields : List (String × String)
  deriving DecidableEq, Inhabited, Repr

/-- The line of a record. -/
def Record.line (record : Record) : String :=
  record.level.word ++ " " ++ record.target ++ ": " ++ record.message ++
    String.join (record.fields.map fun field => " " ++ field.1 ++ "=" ++ field.2)

/-- The characters that are written by their number in quoted values: those that are not seen,
blanks other than the common one, and marks that combine. -/
def unseenRanges : List (Nat × Nat) :=
  [(0, 0x1F), (0x7F, 0xA0), (0xAD, 0xAD), (0x300, 0x36F), (0x1680, 0x1680), (0x2000, 0x200F),
    (0x2028, 0x202F), (0x205F, 0x206F), (0x3000, 0x3000), (0xE000, 0xF8FF), (0xFEFF, 0xFEFF)]

/-- The hexadecimal digits of a number. -/
def hexDigits (value : Nat) : List Char :=
  Nat.toDigits 16 value

/-- A character in a quoted value. -/
def quotedChar (c : Char) : List Char :=
  match c with
  | '"' => ['\\', '"']
  | '\\' => ['\\', '\\']
  | '\n' => ['\\', 'n']
  | '\r' => ['\\', 'r']
  | '\t' => ['\\', 't']
  | '\x00' => ['\\', '0']
  | _ =>
    if unseenRanges.any fun range => range.1 ≤ c.toNat && c.toNat ≤ range.2 then
      ['\\', 'u', '{'] ++ hexDigits c.toNat ++ ['}']
    else [c]

/-- A text in quotes. -/
def quoted (text : String) : String :=
  String.ofList ('"' :: text.toList.flatMap quotedChar ++ ['"'])

/-- A list of texts in quotes. -/
def quotedList (texts : List String) : String :=
  "[" ++ ", ".intercalate (texts.map quoted) ++ "]"

end ClientPlan.Log

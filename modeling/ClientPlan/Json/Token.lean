import ClientPlan.Source.Decimal
import ClientPlan.Source.Node

/-! # JSON tokens

A JSON text is cut into tokens up to the first place that no token fits. -/

namespace ClientPlan.Json

open Source Text

/-- A token of a JSON text. -/
inductive Token where
  | beginList
  | endList
  | beginObject
  | endObject
  | comma
  | colon
  /-- A value on its own: null, a truth value or a number. -/
  | leaf (node : Node)
  /-- A string, or none where it cannot be kept. -/
  | string (value : Option String)
  deriving Inhabited, Repr

/-- The blanks of JSON. -/
def isBlank (c : Char) : Bool :=
  c = ' ' || c = '\t' || c = '\n' || c = '\r'

/-- The value of a hexadecimal digit. -/
def hexValue? (c : Char) : Option Nat :=
  if isAsciiDigit c then some (c.toNat - 48)
  else if 'a' ≤ c && c ≤ 'f' then some (c.toNat - 87)
  else if 'A' ≤ c && c ≤ 'F' then some (c.toNat - 55)
  else none

/-- The value of four hexadecimal digits. -/
def hexUnit? (a b c d : Char) : Option Nat := do
  let a ← hexValue? a
  let b ← hexValue? b
  let c ← hexValue? c
  let d ← hexValue? d
  return a * 4096 + b * 256 + c * 16 + d

/-- The character that an escape with one letter stands for. -/
def simpleEscape? (c : Char) : Option Char :=
  match c with
  | '"' => some '"'
  | '\\' => some '\\'
  | '/' => some '/'
  | 'b' => some '\x08'
  | 'f' => some '\x0c'
  | 'n' => some '\n'
  | 'r' => some '\r'
  | 't' => some '\t'
  | _ => none

/-- A UTF-16 unit that opens a surrogate pair. -/
def isHighSurrogate (unit : Nat) : Bool :=
  0xD800 ≤ unit && unit < 0xDC00

/-- A UTF-16 unit that closes a surrogate pair. -/
def isLowSurrogate (unit : Nat) : Bool :=
  0xDC00 ≤ unit && unit < 0xE000

/-- One element of a quoted string. -/
inductive StringPart where
  | char (c : Char)
  | unit (value : Nat)

/-- The elements of a quoted string up to its closing quote, and the rest of the text; `read` are
the elements already read, the latest first. -/
def stringParts? (read : List StringPart) : List Char → Option (List StringPart × List Char)
  | [] => none
  | '"' :: rest => some (read.reverse, rest)
  | '\\' :: 'u' :: a :: b :: c :: d :: rest =>
    match hexUnit? a b c d with
    | some unit => stringParts? (.unit unit :: read) rest
    | none => none
  | '\\' :: c :: rest =>
    match simpleEscape? c with
    | some c => stringParts? (.char c :: read) rest
    | none => none
  | c :: rest => if c.toNat < 32 || c = '\\' then none else stringParts? (.char c :: read) rest

/-- The characters of a string; a surrogate that is not half of a pair leaves none. `joined` are
the characters already found, the latest first. -/
def joinParts? (joined : List Char) : List StringPart → Option (List Char)
  | [] => some joined.reverse
  | .char c :: rest => joinParts? (c :: joined) rest
  | .unit high :: rest =>
    if isLowSurrogate high then none
    else if isHighSurrogate high then
      match rest with
      | .unit low :: rest =>
        if isLowSurrogate low then
          joinParts? (Char.ofNat (0x10000 + (high - 0xD800) * 0x400 + (low - 0xDC00)) :: joined)
            rest
        else none
      | _ => none
    else joinParts? (Char.ofNat high :: joined) rest

/-- The integer part of a number: no digit may follow a zero that comes first. -/
def integerDigits? (text : List Char) : Option (List Char × List Char) :=
  let digits := text.takeWhile isAsciiDigit
  match digits with
  | [] => none
  | '0' :: _ :: _ => none
  | _ => some (digits, text.dropWhile isAsciiDigit)

/-- The fraction of a number, where there is one: none at all if a point has no digits after
it. -/
def fraction? : List Char → Option (Option (List Char) × List Char)
  | '.' :: rest =>
    match rest.takeWhile isAsciiDigit with
    | [] => none
    | digits => some (some digits, rest.dropWhile isAsciiDigit)
  | text => some (none, text)

/-- The digits of an exponent and its sign. -/
def exponentDigits? (negative : Bool) (text : List Char) : Option (Option Int × List Char) :=
  match text.takeWhile isAsciiDigit with
  | [] => none
  | digits => some (some (exponentValue negative digits), text.dropWhile isAsciiDigit)

/-- The exponent of a number, where there is one: none at all if it has no digits. -/
def exponent? : List Char → Option (Option Int × List Char)
  | c :: rest =>
    if c = 'e' || c = 'E' then
      match rest with
      | '+' :: rest => exponentDigits? false rest
      | '-' :: rest => exponentDigits? true rest
      | _ => exponentDigits? false rest
    else some (none, c :: rest)
  | [] => some (none, [])

/-- A number with its parts as a node; it cannot be kept beyond the range of a double. -/
def numberNode (negative : Bool) (digits : List Char) (fraction : Option (List Char))
    (exponent : Option Int) : Node :=
  let whole := digitsValue digits
  let signed : Int := if negative then -whole else whole
  match fraction, exponent with
  | none, none =>
    if fitsWord signed then .number (.int signed)
    else ((decimal? negative whole 0).map Node.number).getD .unreadable
  | _, _ =>
    let places := fraction.getD []
    ((decimal? negative (digitsValue (digits ++ places))
      (exponent.getD 0 - places.length)).map Node.number).getD .unreadable

/-- The number that the text begins with. -/
def numberToken? (negative : Bool) (text : List Char) : Option (Token × List Char) := do
  let (digits, rest) ← integerDigits? text
  let (fraction, rest) ← fraction? rest
  let (exponent, rest) ← exponent? rest
  return (.leaf (numberNode negative digits fraction exponent), rest)

/-- The token that the text begins with, and the rest. -/
def token? (text : List Char) : Option (Token × List Char) :=
  match text with
  | '[' :: rest => some (.beginList, rest)
  | ']' :: rest => some (.endList, rest)
  | '{' :: rest => some (.beginObject, rest)
  | '}' :: rest => some (.endObject, rest)
  | ',' :: rest => some (.comma, rest)
  | ':' :: rest => some (.colon, rest)
  | 'n' :: 'u' :: 'l' :: 'l' :: rest => some (.leaf .null, rest)
  | 't' :: 'r' :: 'u' :: 'e' :: rest => some (.leaf (.bool true), rest)
  | 'f' :: 'a' :: 'l' :: 's' :: 'e' :: rest => some (.leaf (.bool false), rest)
  | '"' :: rest =>
    match stringParts? [] rest with
    | some (parts, rest) => some (.string ((joinParts? [] parts).map String.ofList), rest)
    | none => none
  | '-' :: rest => numberToken? true rest
  | _ => numberToken? false text

/-- The tokens of a text, and whether they reach its end; `read` are the tokens already read, the
latest first. -/
def tokensFrom (read : List Token) : Nat → List Char → List Token × Bool
  | 0, text => (read.reverse, text.isEmpty)
  | fuel + 1, text =>
    match text.dropWhile isBlank with
    | [] => (read.reverse, true)
    | c :: rest =>
      match token? (c :: rest) with
      | some (token, rest) => tokensFrom (token :: read) fuel rest
      | none => (read.reverse, false)

/-- The tokens of a text, and whether they reach its end. -/
def tokens (text : List Char) : List Token × Bool :=
  tokensFrom [] (text.length + 1) text

end ClientPlan.Json

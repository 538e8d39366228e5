import ClientPlan.Source.ScalarType
import ClientPlan.Text.Replace
import ClientPlan.Toml.Value

/-! # TOML words

Values without quotes or brackets: truth values, numbers, dates and times. -/

namespace ClientPlan.Toml

open Source Text

/-- Digits in groups that single underscores separate. -/
def digitGroups? (isDigit : Char → Bool) (text : List Char) : Option (List Char) :=
  let groups := splitOn '_' text
  if groups.all fun group => !group.isEmpty && group.all isDigit then some groups.flatten
  else none

/-- An integer within 64 bits. -/
def wordInteger? (value : Int) : Option Value :=
  if -0x8000000000000000 ≤ value && value < 0x8000000000000000 then some (.integer value) else none

/-- An unsigned integer in another radix. -/
def radixInteger? (radix : Nat) (text : List Char) : Option Value := do
  let digits ← digitGroups? (fun c => (digitValue? radix c).isSome) text
  wordInteger? (← natural? radix digits)

/-- The digits of a decimal integer without its sign: a zero comes first only alone. -/
def decimalDigits? (text : List Char) : Option (List Char) :=
  (digitGroups? isAsciiDigit text).filter fun digits =>
    digits.head? ≠ some '0' || text.length = 1

/-- A decimal integer. -/
def decimalInteger? (text : List Char) : Option Value := do
  let (negative, text) := splitSign text
  let value := digitsValue (← decimalDigits? text)
  wordInteger? (if negative then -value else value)

/-- The exponent of a float, from the text after its letter. -/
def wordExponent? (text : List Char) : Option Int := do
  let (negative, text) := splitSign text
  return exponentValue negative (← digitGroups? isAsciiDigit text)

/-- Splits a text before its first exponent letter. -/
def splitExponent (text : List Char) : List Char × Option (List Char) :=
  let isLetter := fun c => c = 'e' || c = 'E'
  let after := text.dropWhile fun c => !isLetter c
  (text.takeWhile fun c => !isLetter c, if after.isEmpty then none else some (after.drop 1))

/-- Whether a text is a float: an integer with a fraction or an exponent, and, unless it is
negative, within the range of a double. -/
def isFloat (text : List Char) : Bool :=
  let (negative, text) := splitSign text
  let (mantissa, exponent) := splitExponent text
  let value := do
    let (whole, places) ←
      match splitOnce '.' mantissa with
      | some (whole, places) => (digitGroups? isAsciiDigit places).map fun places => (whole, places)
      | none => if exponent.isSome then some (mantissa, []) else none
    let digits ← decimalDigits? whole
    let exponent ← exponent.elim (some 0) wordExponent?
    return (digitsValue (digits ++ places), exponent - places.length)
  value.any fun (digits, exponent) => negative || inDoubleRange digits exponent

/-- Whether a word stands for infinity or for no number. -/
def isSpecialFloat (text : List Char) : Bool :=
  [['i', 'n', 'f'], ['n', 'a', 'n']].contains (splitSign text).2

/-- A number with exactly the given count of digits, within a range. -/
def bounded? (count least greatest : Nat) (text : List Char) : Option Nat :=
  if text.length = count && text.all isAsciiDigit then
    let value := digitsValue text
    if least ≤ value && value ≤ greatest then some value else none
  else none

/-- The number of days of a month. -/
def daysOf (year month : Nat) : Nat :=
  if month = 2 then
    if (year % 4 = 0 && year % 100 ≠ 0) || year % 400 = 0 then 29 else 28
  else if [4, 6, 9, 11].contains month then 30
  else 31

/-- Whether a text is a date of the calendar. -/
def isDate (text : List Char) : Bool :=
  match splitOn '-' text with
  | [year, month, day] =>
    match bounded? 4 0 9999 year, bounded? 2 1 12 month with
    | some year, some month => (bounded? 2 1 (daysOf year month) day).isSome
    | _, _ => false
  | _ => false

/-- Whether a text is the seconds of a time, with or without a fraction. -/
def isSeconds (text : List Char) : Bool :=
  match splitOn '.' text with
  | [seconds] => (bounded? 2 0 60 seconds).isSome
  | [seconds, places] =>
    (bounded? 2 0 60 seconds).isSome && !places.isEmpty && places.all isAsciiDigit
  | _ => false

/-- Whether a text is a time of day. -/
def isTime (text : List Char) : Bool :=
  match splitOn ':' text with
  | [hour, minute, second] =>
    (bounded? 2 0 23 hour).isSome && (bounded? 2 0 59 minute).isSome && isSeconds second
  | _ => false

/-- Whether a text is an hour and a minute. -/
def isHourMinute (text : List Char) : Bool :=
  match splitOn ':' text with
  | [hour, minute] => (bounded? 2 0 23 hour).isSome && (bounded? 2 0 59 minute).isSome
  | _ => false

/-- Whether a text is a time of day with or without a distance from universal time. -/
def isZonedTime (text : List Char) : Bool :=
  let isOffset := fun c => c = '+' || c = '-'
  match text.reverse with
  | 'Z' :: rest => isTime rest.reverse
  | 'z' :: rest => isTime rest.reverse
  | _ =>
    let time := text.takeWhile fun c => !isOffset c
    let offset := text.dropWhile fun c => !isOffset c
    isTime time && (offset.isEmpty || isHourMinute (offset.drop 1))

/-- Whether a text is a date, a time, or both. -/
def isDateTime (text : List Char) : Bool :=
  isTime text || isDate text ||
    ((text[10]?).any (fun c => c = 'T' || c = 't' || c = ' ') && isDate (text.take 10) &&
      isZonedTime (text.drop 11))

/-- The value of a word. -/
def word? (text : List Char) : Option Value :=
  match text with
  | ['t', 'r', 'u', 'e'] => some (.bool true)
  | ['f', 'a', 'l', 's', 'e'] => some (.bool false)
  | '0' :: 'x' :: digits => radixInteger? 16 digits
  | '0' :: 'o' :: digits => radixInteger? 8 digits
  | '0' :: 'b' :: digits => radixInteger? 2 digits
  | _ =>
    if isDateTime text then some (.dateTime (String.ofList text))
    else if isFloat text || isSpecialFloat text then some (.float (String.ofList text))
    else decimalInteger? text

end ClientPlan.Toml

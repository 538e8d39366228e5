import ClientPlan.Source.Decimal
import ClientPlan.Source.Node

/-! # Types of plain scalars

A plain scalar is null, a truth value, an integer or a float by its spelling, and a string
otherwise. -/

namespace ClientPlan.Source

open Text

/-- The words for null. -/
def isNullWord (text : String) : Bool :=
  ["null", "Null", "NULL", "~"].contains text

/-- The truth value that a word means. -/
def boolWord? (text : String) : Option Bool :=
  if ["true", "True", "TRUE"].contains text then some true
  else if ["false", "False", "FALSE"].contains text then some false
  else none

/-- The value of a digit in the given radix. -/
def digitValue? (radix : Nat) (c : Char) : Option Nat :=
  let value :=
    if isAsciiDigit c then c.toNat - 48
    else if isAsciiLower c then c.toNat - 87
    else if isAsciiUpper c then c.toNat - 55
    else 36
  if value < radix then some value else none

/-- The value of a non-empty run of digits. -/
def natural? (radix : Nat) (digits : List Char) : Option Nat :=
  if digits.isEmpty then none
  else digits.foldlM (fun value c => (digitValue? radix c).map (radix * value + ·)) 0

/-- Several digits of which the first is a zero, with or without a sign: a string, not a
number. -/
def isPaddedDigits (text : List Char) : Bool :=
  let digits :=
    match text with
    | '-' :: rest => rest
    | '+' :: rest => rest
    | _ => text
  digits.length > 1 && digits.head? == some '0' && digits.all isAsciiDigit

/-- The magnitude of an integer without its sign: hexadecimal, octal, binary or decimal. -/
def magnitude? : List Char → Option Nat
  | '0' :: 'x' :: rest => natural? 16 rest
  | '0' :: 'o' :: rest => natural? 8 rest
  | '0' :: 'b' :: rest => natural? 2 rest
  | text => if isPaddedDigits text then none else natural? 10 text

/-- The integer that a word means. -/
def intWord? (text : List Char) : Option Int :=
  match text with
  | '-' :: rest => (magnitude? rest).map fun value => -(value : Int)
  | '+' :: rest => (magnitude? rest).map Int.ofNat
  | _ => (magnitude? text).map Int.ofNat

/-- The sign of a number and what follows it. -/
def splitSign : List Char → Bool × List Char
  | '-' :: rest => (true, rest)
  | '+' :: rest => (false, rest)
  | text => (false, text)

/-- The exponent of a float, where there is one; none at all if its digits are missing. -/
def floatExponent? : List Char → Option Int
  | [] => some 0
  | c :: rest =>
    if c = 'e' || c = 'E' then
      let (negative, digits) := splitSign rest
      if digits.isEmpty || !digits.all isAsciiDigit then none
      else some (exponentValue negative digits)
    else none

/-- The float that a text means: digits with a point or an exponent, one digit at least before the
exponent. -/
def decimalWord? (text : List Char) : Option Json.Number := do
  let (negative, text) := splitSign text
  let whole := text.takeWhile isAsciiDigit
  let rest := text.dropWhile isAsciiDigit
  let (places, rest) :=
    match rest with
    | '.' :: rest => (rest.takeWhile isAsciiDigit, rest.dropWhile isAsciiDigit)
    | _ => ([], rest)
  if whole.isEmpty && places.isEmpty then none
  let exponent ← floatExponent? rest
  decimal? negative (digitsValue (whole ++ places)) (exponent - places.length)

/-- The float that a word means, as a node. -/
def floatWord? (text : String) : Option Node :=
  if [".inf", ".Inf", ".INF", "+.inf", "+.Inf", "+.INF", "-.inf", "-.Inf", "-.INF", ".nan", ".NaN",
      ".NAN"].contains text then some .nonFinite
  else (decimalWord? text.toList).map Node.number

/-- An integer as a node, where it fits. -/
def intNode? (value : Int) : Option Node :=
  if fitsWord value then some (.number (.int value)) else none

/-- The largest integer magnitudes that are read at all, without and with a minus sign. -/
def fitsWideWord (value : Int) : Bool :=
  -0x80000000000000000000000000000000 ≤ value &&
    value < 0x100000000000000000000000000000000

/-- The node of a plain scalar, by its spelling; none if it is an integer too large to keep. -/
def plainNode? (text : String) : Option Node :=
  if text.isEmpty || isNullWord text then some .null
  else
    match boolWord? text with
    | some value => some (.bool value)
    | none =>
      match (intWord? text.toList).filter fitsWideWord with
      | some value => intNode? value
      | none =>
        if isPaddedDigits text.toList then some (.text text)
        else some ((floatWord? text).getD (.text text))

/-- The node of a scalar, by its tag or else by its spelling; none if it does not fit its tag. -/
def Scalar.node? (scalar : Scalar) : Option Node :=
  match scalar.tag with
  | some .null => if isNullWord scalar.text then some .null else none
  | some .bool => (boolWord? scalar.text).map Node.bool
  | some .int => (intWord? scalar.text.toList).bind intNode?
  | some .float => floatWord? scalar.text
  | some .other => some (.text scalar.text)
  | none => if scalar.style = .plain then plainNode? scalar.text else some (.text scalar.text)

end ClientPlan.Source

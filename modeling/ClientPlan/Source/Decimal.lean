import ClientPlan.Json.Basic
import ClientPlan.Text.Case

/-! # Decimal numerals

Reading the digits of a number. A number beyond the range of a double is told apart, and a number
with a fraction or an exponent is kept as digits and exponent. -/

namespace ClientPlan.Source

open Text

/-- The value of a run of decimal digits. -/
def digitsValue (digits : List Char) : Nat :=
  digits.foldl (fun value c => 10 * value + (c.toNat - 48)) 0

/-- The least number that no double is near: halfway from the largest double to the next power of
two. -/
def doubleLimit : Nat :=
  Nat.pow 2 1024 - Nat.pow 2 970

/-- Whether `digits · 10 ^ exponent` lies within the range of a double. -/
def inDoubleRange (digits : Nat) (exponent : Int) : Bool :=
  if digits = 0 then true
  else
    let places := (toString digits).length
    if exponent + places > 400 then false
    else if exponent ≥ 0 then digits * Nat.pow 10 exponent.toNat < doubleLimit
    else if exponent + places < 300 then true
    else digits < doubleLimit * Nat.pow 10 (-exponent).toNat

/-- Drops the zeros at the end of the digits, as long as the exponent is negative. -/
def shorten : Nat → Nat → Int → Nat × Int
  | 0, digits, exponent => (digits, exponent)
  | fuel + 1, digits, exponent =>
    if exponent < 0 && digits % 10 = 0 then shorten fuel (digits / 10) (exponent + 1)
    else (digits, exponent)

/-- The number `± digits · 10 ^ exponent`, or none beyond the range of a double. -/
def decimal? (negative : Bool) (digits : Nat) (exponent : Int) : Option Json.Number :=
  if inDoubleRange digits exponent then
    let (digits, exponent) := shorten (toString digits).length digits exponent
    let exponent := if digits = 0 then 0 else exponent
    some (.decimal (if negative then -digits else digits) exponent)
  else none

/-- The integers that are kept as such: those that fit in 64 bits, with or without a sign. -/
def fitsWord (value : Int) : Bool :=
  -0x8000000000000000 ≤ value && value < 0x10000000000000000

/-- The exponent part of a numeral, given whether it is negative, as an integer. -/
def exponentValue (negative : Bool) (digits : List Char) : Int :=
  let digits := digits.dropWhile (· = '0')
  let value : Int := if digits.length > 6 then 1000000 else digitsValue digits
  if negative then -value else value

end ClientPlan.Source

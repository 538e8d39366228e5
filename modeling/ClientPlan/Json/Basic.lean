/-! # JSON values

Plain JSON values. The members of an object keep the order in which they were written. -/

namespace ClientPlan

/-- A number: an integer, or a decimal fraction `digits · 10 ^ exponent`. -/
inductive Json.Number where
  | int (value : Int)
  | decimal (digits exponent : Int)
  deriving DecidableEq, Inhabited, Repr

/-- A JSON value. -/
inductive Json where
  | null
  | bool (value : Bool)
  | number (value : Json.Number)
  | string (value : String)
  | array (items : List Json)
  | object (members : List (String × Json))
  deriving Inhabited, Repr

namespace Json

/-- An integer as a value. -/
def int (value : Int) : Json :=
  number (.int value)

/-- A list of strings as a value. -/
def strings (values : List String) : Json :=
  array (values.map string)

/-- A string, or null where there is none. -/
def ofOption (value : Option String) : Json :=
  value.elim null string

end Json

end ClientPlan

import ClientPlan.Json.Printer
import ClientPlan.Source.ScalarType

/-! # Templates

A template is text with values, loops and conditions in it. Rendering it fails where a value is
missing or is no list. -/

namespace ClientPlan.Template

/-- A value by the steps that lead to it. -/
abbrev Path := List String

/-- A condition. -/
inductive Condition where
  | value (path : Path)
  | not (condition : Condition)
  | and (left right : Condition)
  | or (left right : Condition)
  deriving DecidableEq, Inhabited, Repr

/-- A part of a template. -/
inductive Node where
  | text (text : String)
  | value (path : Path)
  /-- The body for each item of a list, or what is written for an empty list. -/
  | loop (item : String) (list : Path) (body empty : List Node)
  /-- The body of the first condition that holds, or else the last parts. -/
  | branch (arms : List (Condition × List Node)) (otherwise : List Node)
  deriving Inhabited, Repr

/-- The names in scope, the innermost first. -/
abbrev Scope := List (String × Json)

/-- The place in a list that a step names, in decimal digits without a zero before them. -/
def place? (step : String) : Option Nat :=
  let digits := step.toList
  if digits.head? = some '0' && digits.length > 1 then none else Source.natural? 10 digits

/-- The value that a step leads to. -/
def step? (step : String) : Json → Option Json
  | .object members => members.lookup step
  | .array items => (place? step).bind fun place => items[place]?
  | _ => none

/-- The value that some steps lead to. -/
def descend? : Path → Json → Option Json
  | [], value => some value
  | step :: path, value => (step? step value).bind (descend? path)

/-- The value of a path. A name hides an outer one only if the steps lead on from it. -/
def Scope.find? (scope : Scope) : Path → Option Json
  | [] => none
  | name :: path =>
    scope.findSome? fun entry => if entry.1 = name then descend? path entry.2 else none

/-- Whether a value counts as true: unless it is false, null, zero or empty. -/
def isTrue : Json → Bool
  | .null => false
  | .bool value => value
  | .number (.int value) => value ≠ 0
  | .number (.decimal digits _) => digits ≠ 0
  | .string value => !value.isEmpty
  | .array items => !items.isEmpty
  | .object members => !members.isEmpty

/-- Whether a condition holds. A missing value counts as false. -/
def Condition.holds (scope : Scope) : Condition → Bool
  | value path => (scope.find? path).any isTrue
  | not condition => !condition.holds scope
  | and left right => left.holds scope && right.holds scope
  | or left right => left.holds scope || right.holds scope

mutual

/-- The text of a value. -/
def printed : Json → String
  | .null => ""
  | .bool value => if value then "true" else "false"
  | .number value => value.text
  | .string value => value
  | .array items => "[" ++ printedItems true items ++ "]"
  | .object _ => "[object]"

/-- The texts of some values with commas between them. -/
def printedItems (first : Bool) : List Json → String
  | [] => ""
  | item :: rest => (if first then "" else ", ") ++ printed item ++ printedItems false rest

end

/-- The items that a loop goes through. -/
def items? : Json → Option (List Json)
  | .array items => some items
  | .string text => some (text.toList.map fun c => .string c.toString)
  | _ => none

/-- What a loop says of its place. -/
def placeOf (index count : Nat) : Json :=
  .object [("index", .int (index + 1)), ("index0", .int index), ("first", .bool (index = 0)),
    ("last", .bool (index + 1 = count))]

mutual

/-- The text of a part, none where a value is missing or is no list. -/
def Node.render? (scope : Scope) : Node → Option String
  | .text text => some text
  | .value path => (scope.find? path).map printed
  | .branch arms otherwise =>
    match renderArm? scope arms with
    | some text => text
    | none => renderAll? scope otherwise
  | .loop item list body empty =>
    match (scope.find? list).bind items? with
    | none => none
    | some [] => renderAll? scope empty
    | some items =>
      (items.zipIdx.mapM fun (value, index) =>
        renderAll? ((item, value) :: ("loop", placeOf index items.length) :: scope) body).map
          String.join

/-- The text of some parts. -/
def renderAll? (scope : Scope) : List Node → Option String
  | [] => some ""
  | node :: rest => do
    let first ← node.render? scope
    let others ← renderAll? scope rest
    return first ++ others

/-- The text of the first arm whose condition holds, if there is one. -/
def renderArm? (scope : Scope) : List (Condition × List Node) → Option (Option String)
  | [] => none
  | (condition, body) :: rest =>
    if condition.holds scope then some (renderAll? scope body) else renderArm? scope rest

end

end ClientPlan.Template

import ClientPlan.Json.Basic

/-! # Nodes

A text of a data format as a tree, before it is known what the values are wanted for. Two formats
share it: in one, every scalar has its type; in the other, a plain scalar gets its type from what
is wanted. A text that breaks off is a tree as well: a value that cannot be kept stands for what
could not be read, and a list or a mapping that the text does not close is marked as open. -/

namespace ClientPlan.Source

/-- How a scalar is written. -/
inductive ScalarStyle where
  | plain
  | literal
  | quoted
  deriving DecidableEq, Inhabited, Repr

/-- The type that a tag gives to a scalar. -/
inductive ScalarTag where
  | null
  | bool
  | int
  | float
  | other
  deriving DecidableEq, Inhabited, Repr

/-- A scalar whose type is not settled. -/
structure Scalar where
  text : String
  style : ScalarStyle
  tag : Option ScalarTag := none
  deriving DecidableEq, Inhabited, Repr

/-- A node of a text. -/
inductive Node where
  | null
  | bool (value : Bool)
  | number (value : Json.Number)
  /-- Infinity, or what is no number at all. -/
  | nonFinite
  | text (value : String)
  | scalar (value : Scalar)
  | list (items : List Node) (closed : Bool)
  | mapping (members : List (Node × Node)) (closed : Bool)
  /-- A node that stands elsewhere under the given number. -/
  | alias (number : Nat)
  /-- A node under a tag of the text's own. -/
  | tagged (node : Node)
  /-- A value that cannot be kept. -/
  | unreadable
  deriving Inhabited, Repr

mutual

/-- A JSON value as a node. -/
def Node.ofJson : Json → Node
  | .null => .null
  | .bool value => .bool value
  | .number value => .number value
  | .string value => .text value
  | .array items => .list (Node.ofItems items) true
  | .object members => .mapping (Node.ofMembers members) true

/-- The items of a JSON list as nodes. -/
def Node.ofItems : List Json → List Node
  | [] => []
  | item :: rest => Node.ofJson item :: Node.ofItems rest

/-- The members of a JSON object as pairs of nodes. -/
def Node.ofMembers : List (String × Json) → List (Node × Node)
  | [] => []
  | (name, value) :: rest => (.text name, Node.ofJson value) :: Node.ofMembers rest

end

end ClientPlan.Source

import ClientPlan.OrderedMap
import ClientPlan.Source.ScalarType

/-! # Reading nodes

What a node holds when a string, a truth value, a list, a map or a record is wanted. Reading goes
through the text in order and stops at the first problem. Values that are kept may nest only to a
limit; values that are passed over may nest freely. -/

namespace ClientPlan.Source

/-- What is wrong with a text. -/
inductive Problem where
  /-- The text breaks off, or holds a value that cannot be kept. -/
  | unreadable
  /-- Values that are kept nest too deeply. -/
  | tooDeep
  /-- A record written as a list has more elements than fields. -/
  | extraElements
  | wrongShape
  | duplicateField
  | missingField
  deriving DecidableEq, Inhabited, Repr

/-- What reading depends on besides the node: the nodes that aliases stand for, and whether a
record may be written as the list of its fields. -/
structure Context where
  anchors : Array Node := #[]
  positional : Bool := true

/-- The node that an alias stands for; every other node stands for itself. -/
def Context.target (context : Context) : Node → Node
  | .alias number => (context.anchors[number]?).getD .unreadable
  | node => node

/-- The node behind aliases and tags of the text's own. -/
def Context.view (context : Context) (node : Node) : Node :=
  match context.target node with
  | .tagged inner => inner
  | target => target

/-- A plain scalar without a tag and without a text. -/
def Scalar.isEmpty (scalar : Scalar) : Bool :=
  scalar.text.isEmpty && scalar.style == .plain

/-- A scalar that is read as a truth value: a plain one, or a literal one with the fitting tag. -/
def Scalar.mayBeBool (scalar : Scalar) : Bool :=
  scalar.style == .plain || (scalar.style == .literal && scalar.tag == some .bool)

/-- The string that a node holds. -/
def readText (context : Context) (node : Node) : Except Problem String :=
  match context.view node with
  | .text value => .ok value
  | .scalar scalar => .ok scalar.text
  | .unreadable => .error .unreadable
  | _ => .error .wrongShape

/-- The truth value that a node holds. -/
def readBool (context : Context) (node : Node) : Except Problem Bool :=
  match context.view node with
  | .bool value => .ok value
  | .scalar scalar =>
    match (if scalar.mayBeBool then boolWord? scalar.text else none) with
    | some value => .ok value
    | none => .error .wrongShape
  | .unreadable => .error .unreadable
  | _ => .error .wrongShape

/-- Whether a node stands for an absent value. -/
def isAbsent (context : Context) (node : Node) : Except Problem Bool :=
  match context.target node with
  | .null => .ok true
  | .scalar scalar =>
    if scalar.style == .plain then
      match scalar.tag with
      | none => .ok (scalar.text.isEmpty || isNullWord scalar.text)
      | some .null => if isNullWord scalar.text then .ok true else .error .wrongShape
      | some _ => .ok false
    else .ok false
  | _ => .ok false

/-- The value that a node holds, if any. -/
def readOption {α : Type} (context : Context) (read : Node → Except Problem α) (node : Node) :
    Except Problem (Option α) := do
  if ← isAbsent context node then return none
  return some (← read node)

/-- Fails unless the text closes a list or a mapping. -/
def requireClosed (closed : Bool) : Except Problem Unit :=
  if closed then .ok () else .error .unreadable

/-- The elements of a list, unless the limit of nesting is reached. -/
def readList {α : Type} (context : Context) (depth : Nat) (read : Node → Except Problem α)
    (node : Node) : Except Problem (List α) :=
  match context.view node with
  | .list items closed =>
    if depth = 0 then .error .tooDeep
    else do
      let values ← items.mapM read
      requireClosed closed
      return values
  | .scalar scalar => if scalar.isEmpty then .ok [] else .error .wrongShape
  | .unreadable => .error .unreadable
  | _ => .error .wrongShape

/-- Reads one entry of a map. -/
def readEntry {α : Type} (context : Context) (read : Node → Except Problem α)
    (map : OrderedMap α) (member : Node × Node) : Except Problem (OrderedMap α) := do
  let key ← readText context member.1
  let value ← read member.2
  return OrderedMap.insert map key value

/-- The entries of a mapping with strings for keys, unless the limit of nesting is reached. A key
that occurs again sets its value anew. -/
def readMap {α : Type} (context : Context) (depth : Nat) (read : Node → Except Problem α)
    (node : Node) : Except Problem (OrderedMap α) :=
  match context.view node with
  | .mapping members closed =>
    if depth = 0 then .error .tooDeep
    else do
      let entries ← members.foldlM (readEntry context read) []
      requireClosed closed
      return entries
  | .scalar scalar => if scalar.isEmpty then .ok [] else .error .wrongShape
  | .unreadable => .error .unreadable
  | _ => .error .wrongShape

/-- Whether a field of a record may be left out: everywhere, only where it is named and not where
it is given by its place, or nowhere. -/
inductive Presence where
  | defaulted
  | optional
  | required
  deriving DecidableEq, Inhabited, Repr

/-- A field of a record: its name, whether it may be left out, and how its value changes the
record. -/
structure Field (ρ : Type) where
  name : String
  presence : Presence
  read : Node → Except Problem (ρ → ρ)

/-- A field that may be null or left out. -/
def Field.option {ρ α : Type} (context : Context) (name : String)
    (read : Node → Except Problem α) (set : Option α → ρ → ρ) : Field ρ :=
  ⟨name, .optional, fun node => (readOption context read node).map set⟩

/-- The field that a key names. A key that is an integer counts the fields from zero. -/
def fieldOf {ρ : Type} (context : Context) (fields : List (Field ρ)) (key : Node) :
    Except Problem (Option (Field ρ)) :=
  match context.view key with
  | .text name => .ok (fields.find? fun field => field.name = name)
  | .scalar scalar => .ok (fields.find? fun field => field.name = scalar.text)
  | .number (.int place) => if place < 0 then .error .wrongShape else .ok fields[place.toNat]?
  | .unreadable => .error .unreadable
  | _ => .error .wrongShape

/-- Reads one member of a record; `state` holds the names of the fields set so far, and the
record. Members that are no field are passed over. -/
def readMember {ρ : Type} (context : Context) (fields : List (Field ρ))
    (state : List String × ρ) (member : Node × Node) : Except Problem (List String × ρ) := do
  match ← fieldOf context fields member.1 with
  | none => return state
  | some field =>
    if state.1.contains field.name then throw .duplicateField
    let set ← field.read member.2
    return (field.name :: state.1, set state.2)

/-- Reads a record from its members. -/
def readMembers {ρ : Type} (context : Context) (fields : List (Field ρ)) (start : ρ)
    (members : List (Node × Node)) (closed : Bool) : Except Problem ρ := do
  let (names, record) ← members.foldlM (readMember context fields) ([], start)
  requireClosed closed
  if fields.any fun field => field.presence == .required && !names.contains field.name then
    throw .missingField
  return record

/-- Reads a record from the list of its fields. -/
def readElements {ρ : Type} (closed : Bool) (record : ρ) :
    List (Field ρ) → List Node → Except Problem ρ
  | [], [] => do
    requireClosed closed
    return record
  | [], _ :: _ => .error .extraElements
  | field :: fields, [] =>
    if !closed then .error .unreadable
    else if field.presence = .defaulted then readElements closed record fields []
    else .error .missingField
  | field :: fields, item :: items => do
    let set ← field.read item
    readElements closed (set record) fields items

/-- Reads a record, unless the limit of nesting is reached. -/
def readRecord {ρ : Type} (context : Context) (depth : Nat) (fields : List (Field ρ)) (start : ρ)
    (node : Node) : Except Problem ρ :=
  match context.view node with
  | .mapping members closed =>
    if depth = 0 then .error .tooDeep else readMembers context fields start members closed
  | .list items closed =>
    if !context.positional then .error .wrongShape
    else if depth = 0 then .error .tooDeep
    else readElements closed start fields items
  | .scalar scalar =>
    if scalar.isEmpty then readMembers context fields start [] true else .error .wrongShape
  | .unreadable => .error .unreadable
  | _ => .error .wrongShape

/-- The node of a scalar with its type settled. -/
def settleScalar (scalar : Scalar) : Except Problem Node :=
  match scalar.node? with
  | some node => .ok node
  | none => .error .wrongShape

/-- The node with the types of all its scalars settled and all its aliases followed. The whole of
it is kept, so it may nest only to the limit. -/
def settle (context : Context) : Nat → Node → Except Problem Node
  | depth, node =>
    match context.target node, depth with
    | .scalar scalar, _ => settleScalar scalar
    | .list _ _, 0 => .error .tooDeep
    | .mapping _ _, 0 => .error .tooDeep
    | .list items closed, depth + 1 => do
      let items ← items.mapM (settle context depth)
      requireClosed closed
      return .list items true
    | .mapping members closed, depth + 1 => do
      let members ← members.mapM fun member => do
        let key ← settle context depth member.1
        let value ← settle context depth member.2
        return (key, value)
      requireClosed closed
      return .mapping members true
    | .tagged _, _ => .error .wrongShape
    | .unreadable, _ => .error .unreadable
    | settled, _ => .ok settled

/-- The plain JSON value that a node holds. -/
def readJson (context : Context) : Nat → Node → Except Problem Json
  | depth, node =>
    match context.target node, depth with
    | .null, _ => .ok .null
    | .bool value, _ => .ok (.bool value)
    | .number value, _ => .ok (.number value)
    | .nonFinite, _ => .ok .null
    | .text value, _ => .ok (.string value)
    | .scalar scalar, _ =>
      match scalar.node? with
      | some .null => .ok .null
      | some (.bool value) => .ok (.bool value)
      | some (.number value) => .ok (.number value)
      | some .nonFinite => .ok .null
      | some (.text value) => .ok (.string value)
      | _ => .error .wrongShape
    | .list _ _, 0 => .error .tooDeep
    | .mapping _ _, 0 => .error .tooDeep
    | .list items closed, depth + 1 => do
      let items ← items.mapM (readJson context depth)
      requireClosed closed
      return .array items
    | .mapping members closed, depth + 1 => do
      let entries ← members.foldlM (readEntry context (readJson context depth)) []
      requireClosed closed
      return .object entries
    | .tagged _, _ => .error .wrongShape
    | .unreadable, _ => .error .unreadable
    | .alias _, _ => .error .unreadable

end ClientPlan.Source

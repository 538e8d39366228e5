import ClientPlan.OrderedMap

/-! # TOML values

The values of a TOML text, and how keys and headers add to tables. How a table came to be decides
what may still be added to it. -/

namespace ClientPlan.Toml

/-- How a table came to be. -/
inductive Origin where
  /-- By a header of its own. -/
  | header
  /-- By the header of a table inside it. -/
  | implied
  /-- By a dotted key. -/
  | dotted
  /-- By braces; nothing is added to it. -/
  | braces
  deriving DecidableEq, Inhabited, Repr

/-- A value. -/
inductive Value where
  | bool (value : Bool)
  | string (value : String)
  | integer (value : Int)
  | float (word : String)
  | dateTime (word : String)
  | array (items : List Value)
  | table (origin : Origin) (entries : List (String × Value))
  /-- Tables under one repeated header, the latest first. -/
  | tables (items : List (List (String × Value)))
  deriving Inhabited, Repr

/-- Keys and values of a table. -/
abbrev Entries := OrderedMap Value

/-- Changes a table inside others. Tables that are missing are implied; a repeated header stands for
the latest of its tables. -/
def below? (change : Entries → Option Entries) : List String → Entries → Option Entries
  | [], entries => change entries
  | key :: path, entries =>
    match entries.find? key with
    | none => (below? change path []).map fun inner => entries.insert key (.table .implied inner)
    | some (.table origin inner) =>
      if origin = .braces then none
      else (below? change path inner).map fun inner => entries.insert key (.table origin inner)
    | some (.tables (latest :: earlier)) =>
      (below? change path latest).map fun latest =>
        entries.insert key (.tables (latest :: earlier))
    | some _ => none

/-- Adds a value under a dotted key, given the steps before its last part. Every step leads through
a table without a header, and the last one through a table made by a dotted key. -/
def addDotted? (key : String) (value : Value) : List String → Entries → Option Entries
  | [], entries =>
    if (entries.find? key).isSome then none else some (entries.insert key value)
  | step :: path, entries =>
    match entries.find? step with
    | none =>
      (addDotted? key value path []).map fun inner => entries.insert step (.table .dotted inner)
    | some (.table origin inner) =>
      if origin = .dotted || (origin = .implied && !path.isEmpty) then
        (addDotted? key value path inner).map fun inner =>
          entries.insert step (.table origin inner)
      else none
    | some (.tables (latest :: earlier)) =>
      if path.isEmpty then none
      else
        (addDotted? key value path latest).map fun latest =>
          entries.insert step (.tables (latest :: earlier))
    | some _ => none

/-- Declares a table by its header. An implied table may be declared once. -/
def declare? (key : String) (entries : Entries) : Option Entries :=
  match entries.find? key with
  | none => some (entries.insert key (.table .header []))
  | some (.table .implied inner) => some (entries.insert key (.table .header inner))
  | some _ => none

/-- Begins one more table under a repeated header. -/
def declareNext? (key : String) (entries : Entries) : Option Entries :=
  match entries.find? key with
  | none => some (entries.insert key (.tables [[]]))
  | some (.tables items) => some (entries.insert key (.tables ([] :: items)))
  | some _ => none

end ClientPlan.Toml

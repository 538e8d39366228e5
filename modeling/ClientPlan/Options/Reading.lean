import ClientPlan.Options
import ClientPlan.Toml.Reader

/-! # Reading options

Options come from a TOML text, at its top level or in a table of their own. The flags are given by
name, or by a list of truth values in order. -/

namespace ClientPlan

/-- Why options cannot be read. -/
inductive OptionsError where
  /-- The file of the given name cannot be read, for a reason that is given in words. -/
  | unreadable (path reason : String)
  /-- The text is no TOML. -/
  | malformed
  /-- A flag is no truth value, or is given twice. -/
  | invalid
  deriving DecidableEq, Inhabited, Repr

/-- The wording of the error; what is wrong with a text in detail is not said. -/
def OptionsError.message (error : OptionsError) : String :=
  "Invalid generator configuration: " ++
    match error with
    | .unreadable path reason => "Failed to read " ++ path ++ ": " ++ reason
    | .malformed => "Failed to parse options: "
    | .invalid => "Invalid options: "

namespace Options

/-- The table that may hold the options. -/
def tableName : String := "generator"

/-- Sets a flag by the entries of a table, under one of its names. -/
def readFlag (entries : Toml.Entries) (options : Options) (flag : Flag) :
    Except OptionsError Options :=
  match flag.names.filterMap entries.find? with
  | [] => .ok options
  | [.bool value] => .ok (options.set flag value)
  | _ => .error .invalid

/-- Sets flags by a list, in order. -/
def readFlags (options : Options) : List Flag → List Toml.Value → Except OptionsError Options
  | _, [] => .ok options
  | flag :: flags, .bool value :: values => readFlags (options.set flag value) flags values
  | _, _ => .error .invalid

/-- The options in a value. Entries that are no flag are passed over. -/
def ofValue : Toml.Value → Except OptionsError Options
  | .table _ entries => Flag.all.foldlM (readFlag entries) {}
  | .array values => readFlags {} Flag.all values
  | _ => .error .invalid

/-- The options in a TOML text. -/
def ofToml (text : String) : Except OptionsError Options :=
  match Toml.read? text.toList with
  | none => .error .malformed
  | some entries => ofValue ((entries.find? tableName).getD (.table .header entries))

end Options

end ClientPlan

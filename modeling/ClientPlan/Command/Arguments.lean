import ClientPlan.Generation

/-! # Arguments

What the arguments of the command line ask for. They are read from left to right; the first one that
does not fit, or that asks for help, decides. -/

namespace ClientPlan.Command

open Text

/-- The wording of the error about a text that is no pair. -/
def propertyMessage (text : String) : String :=
  "expected KEY=VALUE, got '" ++ text ++ "'"

/-- A pair of a key and a value with an equals sign between them; the key is not empty. -/
def property (text : String) : Except String (String × String) :=
  match splitOnce '=' text.toList with
  | some (key, value) =>
    let key := trim key
    if key.isEmpty then .error (propertyMessage text)
    else .ok (String.ofList key, String.ofList (trim value))
  | none => .error (propertyMessage text)

/-- The commands of the program. -/
inductive Subcommand where
  | generate
  | plan
  deriving DecidableEq, Inhabited, Repr

/-- The switches of commands. -/
inductive Switch where
  | config
  | properties
  | output
  | templates
  | compact
  | help
  deriving DecidableEq, Inhabited, Repr

namespace Switch

/-- The long name. -/
def long : Switch → String
  | config => "config"
  | properties => "additional-properties"
  | output => "output"
  | templates => "templates"
  | compact => "compact"
  | help => "help"

/-- The short name. -/
def short? : Switch → Option Char
  | config => some 'c'
  | properties => some 'p'
  | output => some 'o'
  | templates => some 't'
  | compact => none
  | help => some 'h'

/-- Whether a value belongs to the switch. -/
def takesValue : Switch → Bool
  | compact => false
  | help => false
  | _ => true

end Switch

/-- The switches of a command. -/
def Subcommand.switches : Subcommand → List Switch
  | generate => [.config, .properties, .output, .templates, .help]
  | plan => [.config, .properties, .compact, .help]

/-- What the arguments of a command have given so far. -/
structure Given where
  document : Option String := none
  config : Option String := none
  properties : List (String × String) := []
  output : Option String := none
  templates : Option String := none
  compact : Bool := false
  deriving DecidableEq, Inhabited, Repr

/-- Why arguments do not fit. -/
inductive Misuse where
  /-- They do not make up a command. -/
  | usage
  /-- A text is no pair, with the wording of the error about it. -/
  | property (text message : String)
  deriving DecidableEq, Inhabited, Repr

/-- Why reading stops early. -/
inductive Stop where
  /-- An argument does not fit. -/
  | misuse (reason : Misuse)
  /-- An argument asks for help. -/
  | help
  deriving DecidableEq, Inhabited, Repr

/-- A path that is given once and is not empty. -/
def setPath (old : Option String) (value : String) : Except Stop (Option String) :=
  if old.isSome || value.isEmpty then .error (.misuse .usage) else .ok (some value)

namespace Given

/-- Adds the document. -/
def addDocument (given : Given) (value : String) : Except Stop Given :=
  (setPath given.document value).map fun document => { given with document := document }

/-- Adds the value of a switch. Properties may be given several at a time, with commas between
them. -/
def addValue (given : Given) (switch : Switch) (value : String) : Except Stop Given :=
  match switch with
  | .config => (setPath given.config value).map fun path => { given with config := path }
  | .output => (setPath given.output value).map fun path => { given with output := path }
  | .templates =>
    (setPath given.templates value).map fun path => { given with templates := path }
  | .properties =>
    let added := (splitString ',' value).mapM fun text =>
      (property text).mapError fun message => .misuse (.property text message)
    added.map fun added => { given with properties := given.properties ++ added }
  | _ => .error (.misuse .usage)

/-- Adds a switch without a value. -/
def addFlag (given : Given) (switch : Switch) : Except Stop Given :=
  match switch with
  | .help => .error .help
  | .compact =>
    if given.compact then .error (.misuse .usage) else .ok { given with compact := true }
  | _ => .error (.misuse .usage)

end Given

/-- Whether an argument is no value of a switch before it. -/
def isSwitchLike (arg : String) : Bool :=
  arg.toList.head? = some '-' && arg ≠ "-"

/-- The switch at the beginning of an argument, and the value behind it. -/
def switchOf? (command : Subcommand) (arg : String) : Option (Switch × Option String) :=
  match arg.toList with
  | '-' :: '-' :: text =>
    let (name, value) :=
      match splitOnce '=' text with
      | some (name, value) => (name, some (String.ofList value))
      | none => (text, none)
    (command.switches.find? fun switch => switch.long.toList = name).map fun switch =>
      (switch, value)
  | '-' :: c :: text =>
    (command.switches.find? fun switch => switch.short? = some c).map fun switch =>
      let value :=
        match text with
        | [] => none
        | '=' :: value => some (String.ofList value)
        | value => some (String.ofList value)
      (switch, if switch.takesValue then value else none)
  | _ => none

/-- Reads the arguments of a command. Behind two dashes, no argument is a switch. -/
def readArguments (command : Subcommand) (given : Given) : List String → Except Stop Given
  | [] => .ok given
  | "--" :: rest => rest.foldlM Given.addDocument given
  | arg :: rest =>
    if isSwitchLike arg then
      match switchOf? command arg with
      | none => .error (.misuse .usage)
      | some (switch, some value) => do
        let given ← given.addValue switch value
        readArguments command given rest
      | some (switch, none) =>
        if switch.takesValue then
          match rest with
          | value :: rest =>
            if isSwitchLike value then .error (.misuse .usage)
            else do
              let given ← given.addValue switch value
              readArguments command given rest
          | [] => .error (.misuse .usage)
        else do
          let given ← given.addFlag switch
          readArguments command given rest
    else do
      let given ← given.addDocument arg
      readArguments command given rest

/-- What help is asked for. -/
inductive Topic where
  | overview
  | command (command : Subcommand)
  | help
  deriving DecidableEq, Inhabited, Repr

/-- What the arguments ask for. -/
inductive Request where
  | help (topic : Topic)
  | version
  /-- Nothing. -/
  | nothing
  | generate (inputs : Inputs) (output : String) (templates : Option String)
  | plan (inputs : Inputs) (compact : Bool)
  deriving DecidableEq, Inhabited, Repr

/-- Whether the log is set up for a request: not where only help or the version is asked for. -/
def Request.logs : Request → Bool
  | help _ => false
  | version => false
  | _ => true

/-- The folder that files are written into unless another is given. -/
def defaultOutput : String := "generated"

/-- The request of a command. -/
def commandRequest (command : Subcommand) (args : List String) : Except Misuse Request :=
  match readArguments command {} args with
  | .error (.misuse reason) => .error reason
  | .error .help => .ok (.help (.command command))
  | .ok given =>
    match given.document with
    | none => .error .usage
    | some document =>
      let inputs : Inputs := ⟨document, given.config, given.properties⟩
      match command with
      | .generate => .ok (.generate inputs (given.output.getD defaultOutput) given.templates)
      | .plan => .ok (.plan inputs given.compact)

/-- The topic that some words name. -/
def topic? : List String → Option Topic
  | [] => some .overview
  | ["generate"] => some (.command .generate)
  | ["plan"] => some (.command .plan)
  | ["help"] => some .help
  | _ => none

/-- The request of the arguments. -/
def request : List String → Except Misuse Request
  | [] => .ok .nothing
  | ["--"] => .ok .nothing
  | "generate" :: args => commandRequest .generate args
  | "plan" :: args => commandRequest .plan args
  | "help" :: args => (topic? args).elim (.error .usage) fun topic => .ok (.help topic)
  | "--help" :: _ => .ok (.help .overview)
  | "--version" :: _ => .ok .version
  | arg :: _ =>
    match arg.toList with
    | '-' :: 'h' :: _ => .ok (.help .overview)
    | '-' :: 'V' :: _ => .ok .version
    | _ => .error .usage

end ClientPlan.Command

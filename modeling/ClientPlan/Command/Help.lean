import ClientPlan.Code.Basic
import ClientPlan.Command.Arguments

/-! # Help texts -/

namespace ClientPlan.Command

/-- The lines that list the commands. -/
def commandLines : List String :=
  ["Commands:",
    "  generate  Generate models, services and resources into a directory",
    "  plan      Print the decorated generation plan as JSON",
    "  help      Print this message or the help of the given subcommand(s)"]

/-- The lines about the inputs of a command. -/
def inputLines : List String :=
  ["Arguments:",
    "  <SPEC>  OpenAPI document (JSON or YAML)",
    "",
    "Options:",
    "  -c, --config <FILE>",
    "          TOML file with generator options",
    "  -p, --additional-properties <KEY=VALUE>",
    "          Option overrides, e.g. `-p useReactiveResource=false,readonlyOutputModels=true`"]

/-- The lines about help itself. -/
def helpLines : List String :=
  ["  -h, --help", "          Print help"]

/-- The lines about a topic. -/
def Topic.lines : Topic → List String
  | overview =>
    ["Angular client generator for OpenAPI documents", "", "Usage: ngen [COMMAND]", ""] ++
      commandLines ++
      ["", "Options:", "  -h, --help     Print help", "  -V, --version  Print version"]
  | command .generate =>
    ["Generate models, services and resources into a directory", "",
      "Usage: ngen generate [OPTIONS] <SPEC>", ""] ++ inputLines ++
      ["  -o, --output <DIR>",
        "          Directory the `models/` and `api/` folders are written into [default: " ++
          defaultOutput ++ "]",
        "  -t, --templates <DIR>",
        "          Directory with template overrides (" ++
          ", ".intercalate ([ArtifactKind.model, .mutation, .resource].map
            ArtifactKind.templateName) ++ ")"] ++ helpLines
  | command .plan =>
    ["Print the decorated generation plan as JSON", "", "Usage: ngen plan [OPTIONS] <SPEC>", ""] ++
      inputLines ++
      ["      --compact", "          Emit compact JSON on a single line"] ++ helpLines
  | help =>
    ["Print this message or the help of the given subcommand(s)", "",
      "Usage: ngen help [COMMAND]...", "", "Arguments:",
      "  [COMMAND]...  Print help for the subcommand(s)"]

/-- The text about a topic. -/
def Topic.text (topic : Topic) : String :=
  Code.unlines topic.lines

end ClientPlan.Command

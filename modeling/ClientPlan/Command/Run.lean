import ClientPlan.Command.Help

/-! # Running a command

What is printed, and the exit code. -/

namespace ClientPlan.Command

open Files

/-- What a run leaves behind besides files and records. -/
structure Outcome where
  code : Nat
  out : String := ""
  /-- The line about a failure. -/
  error : Option String := none
  deriving DecidableEq, Inhabited, Repr

/-- The lines about the files of a run. -/
def summaryLines (summary : Summary) (output : String) : List String :=
  summary.planned.map (fun file => "✓ " ++ file.path) ++
    summary.skipped.map ("- " ++ ·) ++
    ["done: " ++ toString summary.written.length ++ " files written to " ++ output ++ ", " ++
      toString summary.skipped.length ++ " skipped"]

/-- The line about a value that is refused. -/
def Misuse.message? : Misuse → Option String
  | usage => none
  | property text message =>
    some ("error: invalid value '" ++ text ++ "' for '--" ++ Switch.properties.long ++
      " <KEY=VALUE>': " ++ message)

/-- The version of the program. -/
def version : String := "0.2.7"

variable {m : Type → Type} [Monad m] [Access m]

/-- Does what is asked for. -/
def Request.run : Request → m Outcome
  | help topic => pure { code := 0, out := topic.text }
  | version => pure { code := 0, out := "ngen " ++ Command.version ++ "\n" }
  | nothing => pure { code := 0, out := Topic.text .overview ++ "\n" }
  | generate inputs output templates => do
    match ← (inputs.generate output templates).run with
    | .ok summary => return { code := 0, out := Code.unlines (summaryLines summary output) }
    | .error failure => return { code := 1, error := some ("error: " ++ failure.message) }
  | plan inputs compact => do
    match ← (inputs.planText compact).run with
    | .ok text => return { code := 0, out := text ++ "\n" }
    | .error failure => return { code := 1, error := some failure.message }

/-- Runs the program with the given arguments. -/
def run (args : List String) : m Outcome :=
  match request args with
  | .ok request => request.run
  | .error reason => pure { code := 2, error := reason.message? }

end ClientPlan.Command

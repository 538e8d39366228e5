import ClientPlan.Command.Run
import ClientPlan.Log.Filter

/-! # The program

Access to the files of the machine. Records that the setting `NGEN_LOG` lets through go to the error
stream. -/

namespace ClientPlan

open Files

/-- The fault behind an error of the machine. -/
def faultOf : IO.Error → Fault
  | .noFileOrDirectory .. => .missing
  | .alreadyExists .. => .present
  | .inappropriateType _ code words =>
    if code = 20 then .noFolder else if code = 21 then .isFolder else .other words
  | error => .other (toString error)

/-- The outcome of an action that may fail. -/
def attempt {α : Type} (action : IO α) : IO (Except Fault α) := do
  try
    return .ok (← action)
  catch error =>
    return .error (faultOf error)

/-- Runs of the program, which know what is shown of the log. -/
abbrev OnMachine := ReaderT Log.Filter IO

instance : Access OnMachine where
  readText path := do
    match ← attempt (IO.FS.readBinFile path) with
    | .ok bytes => return (String.fromUTF8? bytes).elim (.error .notText) .ok
    | .error fault => return .error fault
  isFile path := do
    match ← attempt (IO.FS.readBinFile path) with
    | .ok _ => return true
    | .error fault => return !([Fault.missing, .noFolder, .isFolder].contains fault)
  isFolder path := return (← attempt (IO.FS.realPath (path ++ "/."))).isOk
  makeFolder path := attempt (IO.FS.createDir path)
  writeText path text := attempt (IO.FS.writeFile path text)
  log record := do
    if (← read).shows record then
      (← IO.getStderr).putStrLn record.line

end ClientPlan

open ClientPlan in
/-- Runs the program and gives its exit code. -/
def main (args : List String) : IO UInt32 := do
  let (filter, ignored) := Log.Filter.ofSetting (← IO.getEnv "NGEN_LOG")
  let errors ← IO.getStderr
  if (Command.request args).toOption.any Command.Request.logs then
    for item in ignored do
      errors.putStrLn (Log.Filter.ignoredLine item)
  let outcome ← (Command.run args : OnMachine Command.Outcome).run filter
  (← IO.getStdout).putStr outcome.out
  if let some line := outcome.error then
    errors.putStrLn line
  return outcome.code.toUInt32

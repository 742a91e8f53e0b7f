import LoxScan.Command

/-! The program on a real machine. Here and nowhere else files are opened, standard input is read
and output is written; what to make of it all is decided in the other modules. -/

namespace LoxScan.Machine

/-- The fault behind the machine's refusal to open a file. -/
def pathFaultOf : IO.Error → PathFault
  | .inappropriateType _ _ details => if details = "not a directory" then .notFolder else .isFolder
  | .invalidArgument _ _ _ => .nameTooLong
  | .permissionDenied _ _ _ => .denied
  | _ => .missing

def readBytes (path : String) : IO (Except PathFault (List UInt8)) := do
  try
    return .ok (← IO.FS.readBinFile path).toList
  catch e =>
    return .error (pathFaultOf e)

def readScript (path encoding : String) : IO (Except ScriptFault String) := do
  if path.toList.contains '\x00' then
    return .error .nullInPath
  else
    return Script.decode encoding (← readBytes path)

/-- The variables that the program looks at, as far as they are set. -/
def environment : IO (List (String × String)) := do
  let mut found := []
  for name in [Settings.logLevelVariable, Settings.promptVariable] do
    if let some value ← IO.getEnv name then
      found := (name, value) :: found
  return found

def write (loggers : Loggers) (printed : Printed) : IO Unit := do
  IO.print printed.out
  (← IO.getStdout).flush
  IO.eprint (loggers.write printed.err)

/-- A session at the prompt, line by line as the input comes in. -/
partial def converse (settings : Settings) (loggers : Loggers) (tally : Tally) : IO Unit := do
  write loggers (.ofOut settings.prompt)
  let input ← (← IO.getStdin).getLine
  match Session.reads (String.ofList (Text.unifyLineEnds input.toList)) with
  | [] => write loggers (.ofOut "\n")
  | read :: reads =>
    let (after, printed) := Session.line settings read tally
    write loggers printed
    let mut tally := after.reset
    for read in reads do
      write loggers (.ofOut settings.prompt)
      let (after, printed) := Session.line settings read tally
      write loggers printed
      tally := after.reset
    converse settings loggers tally

def run (arguments : List String) : IO Nat := do
  match Command.plan arguments (← environment) with
  | .over (.returned code) printed | .over (.exited code) printed =>
    write Loggers.fresh printed
    return code
  | .over (.failed path fault) printed =>
    write Loggers.fresh printed
    IO.eprintln (fault.message path)
    return 1
  | .script path settings loggers =>
    match Session.script settings path (← readScript path settings.encoding) with
    | .ok (code, printed) =>
      write loggers printed
      return code
    | .error fault =>
      IO.eprintln (fault.message path)
      return 1
  | .prompt settings loggers =>
    converse settings loggers .zero
    return Session.success

end LoxScan.Machine

def main (arguments : List String) : IO UInt32 := do
  return (← LoxScan.Machine.run arguments).toUInt32

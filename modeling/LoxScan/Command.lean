import LoxScan.Arguments
import LoxScan.Loggers
import LoxScan.Session

/-! The program: from a command line, an environment, standard input and a disk to what is written
and how it ends. -/

namespace LoxScan

namespace Command

def version : String := "0.1.0-alpha"

/-- How the program is called, in the words of the help. -/
def usage : String :=
  "usage: lox [-h] [--log-level LOG_LEVEL] [--no-echo] [--version] [script ...]\n"

def help : String :=
  usage ++ "\nScan a Lox script, or start an interactive prompt.\n"
    ++ "\npositional arguments:\n"
    ++ "  script                path to a .lox script\n"
    ++ "\noptions:\n"
    ++ "  -h, --help            show this help message and exit\n"
    ++ "  --log-level LOG_LEVEL\n"
    ++ "                        logging level (default: $LOX_LOG_LEVEL or WARNING)\n"
    ++ "  --no-echo             do not print the scanned tokens\n"
    ++ "  --version             show program's version number and exit\n"

/-- The exit code of a command line that cannot be read. -/
def misuseCode : Nat := 2

structure Invocation where
  arguments : List String
  environment : List (String × String)
  input : String
  disk : Node

/-- How the program ends: with a code, at once with a code, or for a script that cannot be read. -/
inductive Outcome where
  | returned (code : Nat)
  | exited (code : Nat)
  | failed (path : String) (fault : ScriptFault)
  deriving DecidableEq, Repr

structure Result where
  outcome : Outcome
  printed : Printed
  loggers : Loggers
  deriving DecidableEq, Repr

/-- The text on standard error: all messages, and the records that the loggers let through. -/
def Result.err (r : Result) : String := r.loggers.write r.printed.err

/-- What is to be done once the command line is read: nothing more, a script, or a session at the
prompt. -/
inductive Plan where
  | over (outcome : Outcome) (printed : Printed)
  | script (path : String) (settings : Settings) (loggers : Loggers)
  | prompt (settings : Settings) (loggers : Loggers)
  deriving DecidableEq, Repr

/-- The settings of a request. A log level that is empty is not set, and another one is put in upper
case. -/
def settings (environment : List (String × String)) (r : Request) : Settings :=
  let s := Settings.ofEnvironment environment
  let level := r.logLevel.getD ""
  { s with
    logLevel := if level = "" then s.logLevel else Text.upper level
    echoTokens := s.echoTokens && !r.noEcho }

def planOf (environment : List (String × String)) (r : Request) : Plan :=
  let s := settings environment r
  match r.scripts with
  | _ :: _ :: _ => .over (.returned Session.usageCode) (.ofMessage "Usage: lox [script]\n")
  | scripts =>
    match Loggers.fresh.configure (.named s.logLevel) with
    | (_, some fault) =>
      .over (.returned Session.usageCode) (.ofMessage ("lox: " ++ fault.message ++ "\n"))
    | (loggers, none) =>
      match scripts with
      | path :: _ => .script path s loggers
      | [] => .prompt s loggers

def plan (arguments : List String) (environment : List (String × String)) : Plan :=
  match Demand.ofWords arguments with
  | .error misuse =>
    .over (.exited misuseCode) (.ofMessage (usage ++ "lox: error: " ++ misuse.message ++ "\n"))
  | .ok .help => .over (.exited 0) (.ofOut help)
  | .ok .version => .over (.exited 0) (.ofOut ("lox " ++ version ++ "\n"))
  | .ok (.request r) => planOf environment r

def run (i : Invocation) : Result :=
  match plan i.arguments i.environment with
  | .over outcome printed => ⟨outcome, printed, Loggers.fresh⟩
  | .script path settings loggers =>
    match Session.file settings i.disk path with
    | .ok (code, printed) => ⟨.returned code, printed, loggers⟩
    | .error fault => ⟨.failed path fault, ⟨"", []⟩, loggers⟩
  | .prompt settings loggers =>
    let input := String.ofList (Text.unifyLineEnds i.input.toList)
    ⟨.returned Session.success, Session.prompt settings (Session.reads input), loggers⟩

end Command

end LoxScan

import LoxScan.Journal
import LoxScan.Script
import LoxScan.Settings

/-! Running source texts. For the time being that means to scan them, to print their tokens and to
report their faults: a single text, a script, or the lines of a session at the prompt. -/

namespace LoxScan

/-- What was reported so far. -/
structure Tally where
  hadError : Bool
  count : Nat
  deriving DecidableEq, Repr

namespace Tally

def zero : Tally := ⟨false, 0⟩

def add (t : Tally) : Tally := ⟨true, t.count + 1⟩

/-- Forgets what was reported. -/
def reset (t : Tally) : Tally := { t with hadError := false, count := 0 }

end Tally

/-- What was written to standard output, and what was brought forth for standard error. -/
structure Printed where
  out : String
  err : List Entry
  deriving DecidableEq, Repr

namespace Printed

def ofOut (s : String) : Printed := ⟨s, []⟩

def ofMessage (s : String) : Printed := ⟨"", [.message s]⟩

def ofRecord (r : Record) : Printed := ⟨"", [.record r]⟩

def append (p q : Printed) : Printed := ⟨p.out ++ q.out, p.err ++ q.err⟩

instance : Append Printed := ⟨append⟩

end Printed

namespace Session

def success : Nat := 0

/-- The exit code of a wrong call. -/
def usageCode : Nat := 64

/-- The exit code of a script with faults. -/
def dataCode : Nat := 65

/-- The exit code of a script that cannot be read. -/
def inputCode : Nat := 66

/-- The name of texts that come from standard input. -/
def inputName : String := "<stdin>"

/-- The line that reports a fault. -/
def report (line : Int) (context message : String) : Entry :=
  .message (Diagnostic.headline line context message ++ "\n")

/-- The tokens of a text, each on a line of its own. -/
def echo (tokens : List Token) : String := String.join (tokens.map fun t => t.write ++ "\n")

/-- Takes note of a fault: it is recorded in the log, then reported. -/
def note (s : Tally × Array Entry) (f : Fault) : Tally × Array Entry :=
  (s.1.add, (s.2.push (.record (.ofFault f))).push
    (report f.line f.diagnostic.context f.diagnostic.message))

def run (settings : Settings) (filename source : String) (tally : Tally) : Tally × Printed :=
  let run := (Cursor.atStart source filename).scan (Reporter.steady note) (tally, #[])
  let found := Scan.ofCursor run.cursor
  (run.state.1,
    ⟨if settings.echoTokens then echo found.tokens else "",
      run.state.2.toList ++ [.record (.ofScan filename found)]⟩)

/-- Runs the script at a path, given what came of reading it. Only a path that leads to no file is
reported here; every other fault in reading is passed on. -/
def script (settings : Settings) (path : String) :
    Except ScriptFault String → Except ScriptFault (Nat × Printed)
  | .error (.path fault) =>
    .ok (inputCode, .ofMessage ("lox: cannot read " ++ path ++ ": " ++ fault.reason ++ "\n"))
  | .error fault => .error fault
  | .ok source =>
    let (tally, printed) := run settings path source .zero
    let printed := Printed.ofRecord (.ofScript path source) ++ printed
    if tally.hadError then
      .ok (dataCode, printed ++ Printed.ofRecord (.ofFaultCount path tally.count))
    else
      .ok (success, printed)

def file (settings : Settings) (disk : Node) (path : String) :
    Except ScriptFault (Nat × Printed) :=
  script settings path (Script.read disk path settings.encoding)

/-- Runs one line that was read at the prompt, without the line feeds at its end. -/
def line (settings : Settings) (read : String) (tally : Tally) : Tally × Printed :=
  run settings inputName (String.ofList (Text.dropWhileEnd (· == '\n') read.toList)) tally

/-- What is left of a session at the prompt, with what was reported so far. Each line that is read
is run on its own, and what it reported is forgotten before the next one. An empty reading ends the
session, like the end of the input. -/
def converse (settings : Settings) (tally : Tally) : List String → Printed
  | [] => .ofOut (settings.prompt ++ "\n")
  | read :: reads =>
    if read = "" then .ofOut (settings.prompt ++ "\n")
    else
      let (tally, printed) := line settings read tally
      Printed.ofOut settings.prompt ++ printed ++ converse settings tally.reset reads

/-- A session at the prompt. -/
def prompt (settings : Settings) (reads : List String) : Printed := converse settings .zero reads

/-- What a reading at the prompt leads to. -/
inductive Input where
  | read (text : String)
  | interrupt
  deriving DecidableEq, Repr

/-- The turns of a session at the prompt, with what was reported so far: whether an interrupt broke
them off, and what they printed. The prompt stands before every reading, also before one that is
broken off. -/
def turns (settings : Settings) (tally : Tally) : List Input → Bool × Printed
  | [] => (false, .ofOut (settings.prompt ++ "\n"))
  | .interrupt :: _ => (true, .ofOut settings.prompt)
  | .read text :: inputs =>
    if text = "" then (false, .ofOut (settings.prompt ++ "\n"))
    else
      let (tally, printed) := line settings text tally
      let (broken, rest) := turns settings tally.reset inputs
      (broken, Printed.ofOut settings.prompt ++ printed ++ rest)

/-- A session at the prompt that may be broken off, with its exit code. After an interrupt the line
of the prompt is still ended. -/
def terminal (settings : Settings) (inputs : List Input) : Nat × Printed :=
  let (broken, printed) := turns settings .zero inputs
  (success, if broken then printed ++ .ofOut "\n" else printed)

/-- The lines of a text, as a session reads them. -/
def reads (input : String) : List String := (Text.linesOf input.toList).map String.ofList

end Session

end LoxScan

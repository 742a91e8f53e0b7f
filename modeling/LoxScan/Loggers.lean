import LoxScan.Journal
import LoxScan.Text.Upper

/-! Loggers, and which records of the log they let through. Loggers form a tree by their names, with
`root` above all. A record goes to the handlers of its logger and of all loggers above it, if its
severity reaches the level of the nearest of them that has one. -/

namespace LoxScan

open Text

/-- A logger: how many handlers write its records, and its level, zero for none. -/
structure Logger where
  handlers : Nat
  level : Int
  deriving DecidableEq, Repr

/-- The loggers that differ from a new one, by name. -/
structure Loggers where
  entries : List (String × Logger)
  deriving DecidableEq, Repr

/-- What a level is asked to be. -/
inductive LevelChoice where
  | named (name : String)
  | numbered (level : Int)
  | fraction (x : Double)
  | absent
  deriving DecidableEq, Repr

/-- Why a level cannot be set. -/
inductive LevelFault where
  | unknownName (name : String)
  | notALevel (text : String)
  deriving DecidableEq, Repr

def LevelFault.message : LevelFault → String
  | unknownName name => "Unknown log level: " ++ name
  | notALevel text => "Level not an integer or a valid string: " ++ text

namespace Loggers

/-- The level at which a logger starts that is given a handler. -/
def warning : Int := 30

/-- The levels that have names. -/
def named : List (String × Int) :=
  [("CRITICAL", 50), ("FATAL", 50), ("ERROR", 40), ("WARNING", warning), ("WARN", warning),
    ("INFO", 20), ("DEBUG", 10), ("NOTSET", 0)]

/-- The level of a given name, in any case. -/
def levelNamed? (name : String) : Option Int := named.lookup (upper name)

def programName : String := "lox"

/-- The logger above all others. -/
def rootName : String := "root"

/-- The loggers before anything is set up: only the root has a level. -/
def fresh : Loggers := ⟨[(rootName, ⟨0, warning⟩)]⟩

def get (l : Loggers) (name : String) : Logger := (l.entries.lookup name).getD ⟨0, 0⟩

def set (l : Loggers) (name : String) (logger : Logger) : Loggers :=
  ⟨(name, logger) :: l.entries.filter (·.1 ≠ name)⟩

/-- The name under which a logger is kept: the empty name is the root's. -/
def nameOf (name : String) : String := if name = "" then rootName else name

/-- Sees to it that a logger has a handler. One that has none gets one, and the level for
warnings. -/
def attach (l : Loggers) (name : String) : Loggers :=
  let name := nameOf name
  let logger := l.get name
  if logger.handlers = 0 then l.set name ⟨1, warning⟩ else l

/-- The program's logger with a handler and a given level. -/
def setLevel (l : Loggers) (level : Int) : Loggers :=
  let l := l.attach programName
  l.set programName { l.get programName with level := level }

/-- Sets up the program's logger. An unknown name changes nothing; what is no level at all is found
out only once the handler is there. -/
def configure (l : Loggers) : LevelChoice → Loggers × Option LevelFault
  | .named name =>
    match levelNamed? name with
    | some level => (l.setLevel level, none)
    | none => (l, some (.unknownName name))
  | .numbered level => (l.setLevel level, none)
  | .fraction x => (l.attach programName, some (.notALevel x.write))
  | .absent => (l.attach programName, some (.notALevel "None"))

/-- A call that sets up loggers. -/
inductive Call where
  | attach (name : String)
  | configure (choice : LevelChoice)
  deriving DecidableEq, Repr

/-- The loggers after a call, and why it failed if it did. -/
def perform (l : Loggers) : Call → Loggers × Option LevelFault
  | .attach name => (l.attach name, none)
  | .configure choice => l.configure choice

/-- The loggers after some calls. Those that fail leave behind what they had done. -/
def performAll (l : Loggers) (calls : List Call) : Loggers :=
  calls.foldl (fun l call => (l.perform call).1) l

/-- The level that counts for a channel: that of the nearest logger that has one. -/
def threshold (l : Loggers) (channel : Channel) : Int :=
  (channel.lineage.find? fun name => (l.get name).level ≠ 0).elim 0 fun name => (l.get name).level

/-- How many handlers a record of a channel meets. -/
def handlersOf (l : Loggers) (channel : Channel) : Nat :=
  channel.lineage.foldr (fun name count => (l.get name).handlers + count) 0

/-- What is written of a record: its line, once for each handler, if its level suffices. -/
def writeRecord (l : Loggers) (r : Record) : String :=
  if l.threshold r.channel ≤ r.severity.level then
    String.join (List.replicate (l.handlersOf r.channel) r.line)
  else
    ""

def writeEntry (l : Loggers) : Entry → String
  | .message text => text
  | .record r => l.writeRecord r

def write (l : Loggers) (entries : List Entry) : String := String.join (entries.map l.writeEntry)

theorem write_cons (l : Loggers) (entry : Entry) (entries : List Entry) :
    l.write (entry :: entries) = l.writeEntry entry ++ l.write entries := String.join_cons

theorem write_append (l : Loggers) (a b : List Entry) :
    l.write (a ++ b) = l.write a ++ l.write b := by
  rw [write, List.map_append, String.join_append]
  rfl

end Loggers

end LoxScan

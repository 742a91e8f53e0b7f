import LoxScan.Scan

/-! What a run writes to standard error: messages, which always appear, and records of a log, which
may be left out. -/

namespace LoxScan

inductive Severity where
  | debug
  | info
  deriving DecidableEq, Repr

namespace Severity

def name : Severity → String
  | debug => "DEBUG"
  | info => "INFO"

def level : Severity → Int
  | debug => 10
  | info => 20

end Severity

/-- Where records come from. -/
inductive Channel where
  | command
  | scanner
  deriving DecidableEq, Repr

namespace Channel

/-- The logger of a channel. -/
def name : Channel → String
  | command => "lox.cli"
  | scanner => "lox.lexer.scanner"

/-- The loggers that a record of the channel passes, from its own up to the root. -/
def lineage : Channel → List String
  | command => ["lox.cli", "lox", "root"]
  | scanner => ["lox.lexer.scanner", "lox.lexer", "lox", "root"]

end Channel

structure Record where
  severity : Severity
  channel : Channel
  message : String
  deriving DecidableEq, Repr

namespace Record

/-- The time in front of every record. No clock is read, it is always this one. -/
def time : String := "1970-01-01 00:00:00,000"

/-- A record as a line of the log. -/
def line (r : Record) : String :=
  time ++ " [" ++ r.severity.name ++ "] " ++ r.channel.name ++ ": " ++ r.message ++ "\n"

def ofFault (f : Fault) : Record :=
  ⟨.debug, .scanner,
    f.kind.name ++ " at " ++ f.diagnostic.location.write ++ ": " ++ f.diagnostic.message⟩

/-- The record of a finished scan. -/
def ofScan (filename : String) (s : Scan) : Record :=
  ⟨.debug, .scanner,
    "Scanned " ++ filename ++ ": " ++ toString s.tokens.length ++ " tokens, "
      ++ toString s.faults.length ++ " errors"⟩

/-- The record of a script that is about to be scanned, with its length in characters. -/
def ofScript (path source : String) : Record :=
  ⟨.info, .command, "Scanning " ++ path ++ " (" ++ toString source.length ++ " characters)"⟩

/-- The record of a script in which faults were reported. -/
def ofFaultCount (path : String) (count : Nat) : Record :=
  ⟨.info, .command, path ++ ": " ++ toString count ++ " lexical error(s)"⟩

end Record

/-- A message or a record, in the order in which a run brings them forth. -/
inductive Entry where
  | message (text : String)
  | record (r : Record)
  deriving DecidableEq, Repr

/-- The records of the scan of a text. -/
def Scan.records (filename : String) (s : Scan) : List Record :=
  s.faults.map Record.ofFault ++ [Record.ofScan filename s]

end LoxScan

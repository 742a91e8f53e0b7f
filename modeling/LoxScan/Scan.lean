import LoxScan.Cursor

/-! The tokens and the faults of a whole source text. -/

namespace LoxScan

/-- What a source text holds: its tokens, the last of which is the end of the text, and its
faults. -/
structure Scan where
  tokens : List Token
  faults : List Fault
  deriving DecidableEq, Repr

namespace Scan

/-- The name of a script that has no other name. -/
def scriptName : String := "<script>"

/-- The name of a text that is given as it is. -/
def stringName : String := "<string>"

def ofCursor (c : Cursor) : Scan := ⟨c.tokens.toList, c.faults.toList⟩

/-- Scans a text and tells a reporter of each fault. A reporter that breaks off leaves no result. -/
def reported {σ : Type} (report : Reporter σ) (s : σ) (source filename : String) :
    Option Scan × σ :=
  let run := (Cursor.atStart source filename).scan report s
  (if run.complete then some (ofCursor run.cursor) else none, run.state)

def ofText (source filename : String) : Scan :=
  ofCursor ((Cursor.atStart source filename).scan Reporter.silent ()).cursor

def hasFaults (s : Scan) : Bool := !s.faults.isEmpty

/-- The tokens of a text without faults, or else the first fault. -/
def tokens? (source filename : String) : Except Fault (List Token) :=
  let s := ofText source filename
  match s.faults with
  | [] => .ok s.tokens
  | f :: _ => .error f

end Scan

end LoxScan

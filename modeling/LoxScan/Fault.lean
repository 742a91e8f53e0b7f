import LoxScan.Token.Basic

/-! What is wrong with a source text, and how it is told. A diagnostic is the wording with its
place; a fault is a diagnostic together with the kind of fault. -/

namespace LoxScan

open Text

/-- A message about a place in a source text. `context` says more about the place, and `help` says
what to do. -/
structure Diagnostic where
  message : String
  location : Location
  context : String
  help : Option String
  deriving DecidableEq, Repr

namespace Diagnostic

/-- The first line of a diagnostic: the line of the text, the context and the message. -/
def headline (line : Int) (context message : String) : String :=
  "[line " ++ toString line ++ "] Error" ++ context ++ ": " ++ message

/-- A diagnostic as it is printed. A help text that is empty is left out. -/
def write (d : Diagnostic) : String :=
  let first := headline d.location.line d.context d.message
  match d.help with
  | none | some "" => first
  | some help => first ++ "\n  help: " ++ help

end Diagnostic

inductive FaultKind where
  | general
  | openString
  | strayCharacter
  | openComment
  deriving DecidableEq, Repr

def FaultKind.name : FaultKind → String
  | general => "LexerError"
  | openString => "UnterminatedString"
  | strayCharacter => "UnexpectedCharacter"
  | openComment => "UnterminatedComment"

/-- Something wrong in a source text. -/
structure Fault where
  kind : FaultKind
  diagnostic : Diagnostic
  deriving DecidableEq, Repr

namespace Fault

def line (f : Fault) : Int := f.diagnostic.location.line

/-- The help for printable characters that begin no token. -/
def printableHelp (cs : List Char) : String :=
  "The character '" ++ String.ofList cs ++ "' is not valid in Lox source code."

/-- The help for a character that begins no token and cannot be shown: its code point, with at
least four hexadecimal digits. -/
def hiddenHelp (c : Char) : String :=
  "Non-printable character (Unicode: U+"
    ++ String.ofList ((hex 4 c.toNat).map Char.toUpper) ++ ") is not allowed."

/-- The fault of characters that begin no token, with a given help. -/
def stray (help : String) (location : Location) : Fault :=
  ⟨.strayCharacter, ⟨"Unexpected character.", location, "", some help⟩⟩

/-- The fault of a character that begins no token. -/
def strayCharacter (c : Char) (location : Location) : Fault :=
  stray (if isPrintable c then printableHelp [c] else hiddenHelp c) location

/-- The fault of a text that begins no token. Any printable text can be shown; of the others only
single characters have a code point to show, and for the rest the number of characters is given
back. -/
def strayText (cs : List Char) (location : Location) : Except Nat Fault :=
  if cs.all isPrintable then .ok (stray (printableHelp cs) location)
  else match cs with
    | [c] => .ok (strayCharacter c location)
    | _ => .error cs.length

/-- The fault of a string literal that never closes. -/
def openString (location : Location) : Fault :=
  ⟨.openString, ⟨"Unterminated string.", location, " at end",
    some "String literals must be closed with a matching \" quote."⟩⟩

/-- The fault of a block comment that never closes. -/
def openComment (location : Location) : Fault :=
  ⟨.openComment, ⟨"Unterminated block comment.", location, " at end",
    some "Block comments must be closed with */."⟩⟩

end Fault

end LoxScan

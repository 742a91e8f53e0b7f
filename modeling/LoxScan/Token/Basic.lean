import LoxScan.Number.Shortest
import LoxScan.Text.Quoted
import LoxScan.Token.Kind

/-! Tokens and the places they come from, and how both are printed. -/

namespace LoxScan

open Text

/-- The value of a literal token: the characters between the quotes, or the number. -/
inductive Literal where
  | text (s : String)
  | number (x : Double)
  deriving DecidableEq, Repr

namespace Literal

/-- A literal as a token shows it. -/
def write : Literal → String
  | text s => s
  | number x => x.write

/-- A literal as a description of a token shows it: texts stand between quotes. -/
def describe : Literal → String
  | text s => quoted s
  | number x => x.write

/-- Equality of values; numbers are compared as numbers. -/
def valueEq : Literal → Literal → Bool
  | text s, text t => s == t
  | number x, number y => x.numEq y
  | _, _ => false

end Literal

/-- A token: its kind, the characters it was made from, its value if it has one, and the line on
which it starts. -/
structure Token where
  kind : Kind
  lexeme : String
  literal : Option Literal
  line : Int
  deriving DecidableEq, Repr

namespace Token

/-- A token as it is printed. Without a value, nothing blank stays at the end. -/
def write (t : Token) : String :=
  match t.literal with
  | some value => t.kind.name ++ " " ++ t.lexeme ++ " " ++ value.write
  | none => String.ofList (trimEnd (t.kind.name ++ " " ++ t.lexeme).toList)

def describe (t : Token) : String :=
  let value := match t.literal with
    | some value => value.describe
    | none => "None"
  "Token(" ++ t.kind.name ++ ", " ++ quoted t.lexeme ++ ", " ++ value ++ ", " ++ toString t.line
    ++ ")"

/-- Equality of all four parts; numbers are compared as numbers. -/
def valueEq (t u : Token) : Bool :=
  t.kind == u.kind && t.lexeme == u.lexeme && t.line == u.line &&
    match t.literal, u.literal with
    | none, none => true
    | some x, some y => x.valueEq y
    | _, _ => false

end Token

/-- A place in a source text: the name of the text and a line of it. -/
structure Location where
  filename : String
  line : Int
  deriving DecidableEq, Repr

namespace Location

def write (l : Location) : String := l.filename ++ ":" ++ toString l.line

def describe (l : Location) : String :=
  "SourceLocation(" ++ quoted l.filename ++ ", " ++ toString l.line ++ ")"

end Location

end LoxScan

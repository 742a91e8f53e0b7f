/-! The kinds of tokens: punctuation and operators, literals, identifiers, reserved words, and the
end of the text. -/

namespace LoxScan

inductive Keyword where
  | andWord | classWord | elseWord | falseWord | funWord | forWord | ifWord | nullWord | orWord
  | printWord | returnWord | superWord | thisWord | trueWord | varWord | whileWord
  deriving DecidableEq, Repr

namespace Keyword

def spelling : Keyword → String
  | andWord => "and"
  | classWord => "class"
  | elseWord => "else"
  | falseWord => "false"
  | funWord => "fun"
  | forWord => "for"
  | ifWord => "if"
  | nullWord => "null"
  | orWord => "or"
  | printWord => "print"
  | returnWord => "return"
  | superWord => "super"
  | thisWord => "this"
  | trueWord => "true"
  | varWord => "var"
  | whileWord => "while"

/-- The name of the kind of token that a reserved word makes. -/
def name : Keyword → String
  | andWord => "AND"
  | classWord => "CLASS"
  | elseWord => "ELSE"
  | falseWord => "FALSE"
  | funWord => "FUN"
  | forWord => "FOR"
  | ifWord => "IF"
  | nullWord => "NULL"
  | orWord => "OR"
  | printWord => "PRINT"
  | returnWord => "RETURN"
  | superWord => "SUPER"
  | thisWord => "THIS"
  | trueWord => "TRUE"
  | varWord => "VAR"
  | whileWord => "WHILE"

/-- Every reserved word, in the order of the kinds. -/
def all : List Keyword :=
  [andWord, classWord, elseWord, falseWord, funWord, forWord, ifWord, nullWord, orWord, printWord,
    returnWord, superWord, thisWord, trueWord, varWord, whileWord]

/-- Every reserved word, in the order in which the language lists them. -/
def listed : List Keyword :=
  [andWord, classWord, elseWord, falseWord, trueWord, forWord, ifWord, whileWord, funWord, nullWord,
    orWord, printWord, returnWord, superWord, thisWord, varWord]

/-- The reserved word of a given spelling. Case matters. -/
def ofSpelling? (s : String) : Option Keyword := all.find? (·.spelling == s)

end Keyword

inductive Kind where
  | leftParen | rightParen | leftBrace | rightBrace | comma | dot | minus | plus | semicolon
  | slash | star | bang | bangEqual | equal | equalEqual | greater | greaterEqual | less | lessEqual
  | identifier | string | number
  | keyword (word : Keyword)
  | endOfText
  deriving DecidableEq, Repr

namespace Kind

def name : Kind → String
  | leftParen => "LEFT_PAREN"
  | rightParen => "RIGHT_PAREN"
  | leftBrace => "LEFT_BRACE"
  | rightBrace => "RIGHT_BRACE"
  | comma => "COMMA"
  | dot => "DOT"
  | minus => "MINUS"
  | plus => "PLUS"
  | semicolon => "SEMICOLON"
  | slash => "SLASH"
  | star => "STAR"
  | bang => "BANG"
  | bangEqual => "BANG_EQUAL"
  | equal => "EQUAL"
  | equalEqual => "EQUAL_EQUAL"
  | greater => "GREATER"
  | greaterEqual => "GREATER_EQUAL"
  | less => "LESS"
  | lessEqual => "LESS_EQUAL"
  | identifier => "IDENTIFIER"
  | string => "STRING"
  | number => "NUMBER"
  | keyword word => word.name
  | endOfText => "EOF"

/-- The operators and punctuation marks. -/
def operators : List Kind :=
  [leftParen, rightParen, leftBrace, rightBrace, comma, dot, minus, plus, semicolon, slash, star,
    bang, bangEqual, equal, equalEqual, greater, greaterEqual, less, lessEqual]

/-- Every kind, in order. -/
def all : List Kind :=
  operators ++ [identifier, string, number] ++ Keyword.all.map keyword ++ [endOfText]

/-- The position of a kind in the order of kinds, counted from one. -/
def ordinal (k : Kind) : Nat := all.idxOf k + 1

def ofName? (s : String) : Option Kind := all.find? (·.name == s)

/-- Whether tokens of this kind are values: strings, numbers and the words for truth, falsehood and
nothing. -/
def isLiteral : Kind → Bool
  | string | number | keyword .trueWord | keyword .falseWord | keyword .nullWord => true
  | _ => false

def isKeyword : Kind → Bool
  | keyword _ => true
  | _ => false

def isOperator (k : Kind) : Bool := operators.contains k

def isIdentifier (k : Kind) : Bool := k == identifier

/-- The kind of a character that is a token whatever follows it. -/
def ofMark? : Char → Option Kind
  | '(' => some leftParen
  | ')' => some rightParen
  | '\x7b' => some leftBrace
  | '\x7d' => some rightBrace
  | ',' => some comma
  | '.' => some dot
  | '-' => some minus
  | '+' => some plus
  | ';' => some semicolon
  | '*' => some star
  | _ => none

/-- The kinds of a character that an equals sign may follow: with it, and alone. -/
def ofPaired? : Char → Option (Kind × Kind)
  | '!' => some (bangEqual, bang)
  | '=' => some (equalEqual, equal)
  | '<' => some (lessEqual, less)
  | '>' => some (greaterEqual, greater)
  | _ => none

/-- The kind of a word: a reserved word of that spelling, or an identifier. -/
def ofWord (s : String) : Kind :=
  match Keyword.ofSpelling? s with
  | some word => keyword word
  | none => identifier

end Kind

end LoxScan

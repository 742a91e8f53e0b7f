import LoxScan.Text.DecimalDigit
import LoxScan.Text.Quoted

/-! The command line. Its words are first told apart into switches and plain words, then taken in
order. A switch may be shortened to a start that no other switch shares, and may carry a value after
an equals sign. The first run of plain words names the scripts. -/

namespace LoxScan

open Text

inductive Switch where
  | help
  | logLevel
  | noEcho
  | version
  deriving DecidableEq, Repr

namespace Switch

def spellings : List (String × Switch) :=
  [("-h", help), ("--help", help), ("--log-level", logLevel), ("--no-echo", noEcho),
    ("--version", version)]

def ofSpelling? (s : String) : Option Switch := spellings.lookup s

/-- All spellings of a switch, as messages give them. -/
def title (s : Switch) : String :=
  "/".intercalate ((spellings.filter (·.2 = s)).map (·.1))

end Switch

/-- A word of the command line. The two dashes that end the switches are `dashes`. A switch may have
a value in the same word. -/
inductive Argument where
  | plain (word : String)
  | dashes
  | switch (s : Switch) (value : Option (List Char))
  | unknown (word : String)
  deriving DecidableEq, Repr

/-- What is wrong with a command line. -/
inductive Misuse where
  | ambiguous (word : String) (spellings : List String)
  | missingValue (s : Switch)
  | unusedValue (s : Switch) (value : List Char)
  | unrecognized (words : List String)
  deriving DecidableEq, Repr

def Misuse.message : Misuse → String
  | ambiguous word spellings =>
    "ambiguous option: " ++ word ++ " could match " ++ ", ".intercalate spellings
  | missingValue s => "argument " ++ s.title ++ ": expected one argument"
  | unusedValue s value =>
    "argument " ++ s.title ++ ": ignored explicit argument " ++ quoted (String.ofList value)
  | unrecognized words => "unrecognized arguments: " ++ " ".intercalate words

namespace Argument

/-- A word cut at its first equals sign. -/
def cut (cs : List Char) : List Char × Option (List Char) :=
  match cs.dropWhile (· != '=') with
  | [] => (cs, none)
  | _ :: value => (cs.takeWhile (· != '='), some value)

/-- Whether digits follow the dash, or digits, a point and digits, the first of which may be
missing; a line feed at the end does no harm. -/
def isNegativeNumber (cs : List Char) : Bool :=
  let isNumber (body : List Char) : Bool :=
    match body.dropWhile isDecimalDigit with
    | [] => !body.isEmpty
    | '.' :: fraction => !fraction.isEmpty && fraction.all isDecimalDigit
    | _ => false
  match cs with
  | '-' :: body => isNumber body || (body.getLast? == some '\n' && isNumber body.dropLast)
  | _ => false

/-- The value in a word whose switch is spelled as given. Behind a switch of one letter that letter
may be repeated, which says nothing new, and the value is what else is left. -/
def valueBehind (spelling value : List Char) : Option (List Char) :=
  match spelling, value with
  | ['-', letter], _ :: _ =>
    match value.dropWhile (· = letter) with
    | [] => none
    | rest => some rest
  | _, _ => some value

/-- The switches that a word may mean that spells none of them: those with two dashes that start
like the word does before its equals sign, or the one whose single letter the word starts with. -/
def candidates (cs : List Char) : List (String × Switch × Option (List Char)) :=
  match cs with
  | '-' :: '-' :: _ =>
    let (start, value) := cut cs
    (Switch.spellings.filter fun s => start.isPrefixOf s.1.toList).map fun s => (s.1, s.2, value)
  | '-' :: letter :: rest =>
    (Switch.spellings.filter fun s => s.1.toList = ['-', letter]).map fun s =>
      (s.1, s.2, valueBehind ['-', letter] rest)
  | _ => []

/-- What a word is that starts with a dash and has more than that. -/
def classifyDashed (word : String) : Except Misuse Argument :=
  let cs := word.toList
  let (start, value) := cut cs
  match Switch.ofSpelling? word, value, Switch.ofSpelling? (String.ofList start) with
  | some s, _, _ => .ok (.switch s none)
  | none, some value, some s => .ok (.switch s (valueBehind start value))
  | _, _, _ =>
    match candidates cs with
    | [(_, s, value)] => .ok (.switch s value)
    | [] =>
      if isNegativeNumber cs || cs.contains ' ' then .ok (.plain word) else .ok (.unknown word)
    | found => .error (.ambiguous word (found.map (·.1)))

/-- What a word is, unless all switches are over. -/
def classify (word : String) : Except Misuse Argument :=
  match word.toList with
  | '-' :: _ :: _ => classifyDashed word
  | _ => .ok (.plain word)

/-- What the words of a command line are. After two dashes that stand alone every word is plain. -/
def classifyAll : List String → Except Misuse (List Argument)
  | [] => .ok []
  | word :: words =>
    if word = "--" then .ok (.dashes :: words.map .plain)
    else do
      let argument ← classify word
      let arguments ← classifyAll words
      return argument :: arguments

end Argument

structure Request where
  scripts : List String
  logLevel : Option String
  noEcho : Bool
  deriving DecidableEq, Repr

/-- What the reading of a command line ends with: something to be shown, or a request. -/
inductive Demand where
  | help
  | version
  | request (r : Request)
  deriving DecidableEq, Repr

namespace Request

/-- Where the reading of the scripts stands: before them, among them, or behind them. -/
inductive Phase where
  | before
  | among
  | behind
  deriving DecidableEq, Repr

/-- What was read so far. Plain words behind the scripts and unknown switches are left over. -/
structure Progress where
  request : Request
  phase : Phase
  leftover : List String
  deriving DecidableEq, Repr

namespace Progress

def start : Progress := ⟨⟨[], none, false⟩, .before, []⟩

/-- A switch ends the scripts that were begun. -/
def pass (p : Progress) : Progress :=
  { p with phase := if p.phase = .among then .behind else p.phase }

/-- A plain word is a script, or is left over behind the scripts. -/
def plain (p : Progress) (word : String) : Progress :=
  match p.phase with
  | .behind => { p with leftover := p.leftover ++ [word] }
  | _ => { p with
      phase := .among
      request := { p.request with scripts := p.request.scripts ++ [word] } }

/-- Two dashes count as no script, but behind the scripts they are left over. -/
def dashes (p : Progress) : Progress :=
  match p.phase with
  | .behind => { p with leftover := p.leftover ++ ["--"] }
  | _ => { p with phase := .among }

/-- An unknown switch is left over. -/
def unknown (p : Progress) (word : String) : Progress :=
  { p.pass with leftover := p.leftover ++ [word] }

/-- The level of the log is set. Two dashes are no value, so they leave it empty. -/
def level (p : Progress) (value : String) : Progress :=
  let level := if value = "--" then "" else value
  { p.pass with request := { p.request with logLevel := some level } }

/-- Tokens are not printed. -/
def quiet (p : Progress) : Progress :=
  { p.pass with request := { p.request with noEcho := true } }

end Progress

/-- Takes the words of a command line in order. What a switch asks to be shown is shown at once, so
nothing behind it counts; what is left over is refused only at the end. -/
def follow (p : Progress) : List Argument → Except Misuse Demand
  | [] =>
    if p.leftover = [] then .ok (.request p.request) else .error (.unrecognized p.leftover)
  | .plain word :: rest => follow (p.plain word) rest
  | .dashes :: rest => follow p.dashes rest
  | .unknown word :: rest => follow (p.unknown word) rest
  | .switch .logLevel (some value) :: rest => follow (p.level (String.ofList value)) rest
  | .switch .logLevel none :: .plain value :: rest => follow (p.level value) rest
  | .switch .logLevel none :: _ => .error (.missingValue .logLevel)
  | .switch s (some value) :: _ => .error (.unusedValue s value)
  | .switch .help none :: _ => .ok .help
  | .switch .version none :: _ => .ok .version
  | .switch .noEcho none :: rest => follow p.quiet rest

end Request

def Demand.ofWords (words : List String) : Except Misuse Demand := do
  Request.follow .start (← Argument.classifyAll words)

end LoxScan

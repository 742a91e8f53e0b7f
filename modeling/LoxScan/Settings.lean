import LoxScan.Text.Upper

/-! The settings of a run. They start from defaults, then the environment and then the command line
may change them. -/

namespace LoxScan

structure Settings where
  logLevel : String
  prompt : String
  echoTokens : Bool
  encoding : String
  deriving DecidableEq, Repr

inductive SettingValue where
  | text (s : String)
  | flag (b : Bool)
  deriving DecidableEq, Repr

namespace Settings

/-- The settings that hold unless something else is said. -/
def default : Settings := ⟨"WARNING", "> ", true, "utf-8"⟩

def logLevelVariable : String := "LOX_LOG_LEVEL"

def promptVariable : String := "LOX_PROMPT"

/-- The settings under an environment. A log level that is empty is not set, and another one is put
in upper case; the prompt may be empty. -/
def ofEnvironment (environment : List (String × String)) : Settings :=
  let level := (environment.lookup logLevelVariable).getD ""
  { default with
    logLevel := if level = "" then default.logLevel else Text.upper level
    prompt := (environment.lookup promptVariable).getD default.prompt }

/-- The settings with the setting of a given name changed, if there is one for such a value. -/
def assign? (s : Settings) (name : String) (value : SettingValue) : Option Settings :=
  match name, value with
  | "log_level", .text t => some { s with logLevel := t }
  | "prompt", .text t => some { s with prompt := t }
  | "echo_tokens", .flag b => some { s with echoTokens := b }
  | "encoding", .text t => some { s with encoding := t }
  | _, _ => none

/-- The settings with changes made in order. Changes without a value are passed over, and the first
name that is no setting is given back. -/
def override (s : Settings) : List (String × Option SettingValue) → Except String Settings
  | [] => .ok s
  | (_, none) :: changes => s.override changes
  | (name, some value) :: changes =>
    match s.assign? name value with
    | some s => s.override changes
    | none => .error name

end Settings

end LoxScan

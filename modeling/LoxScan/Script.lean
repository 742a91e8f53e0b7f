import LoxScan.Disk
import LoxScan.Scan
import LoxScan.Text.Encoding

/-! Scripts: source texts in files. A script is found by its path, decoded, and freed of carriage
returns. -/

namespace LoxScan

open Text

inductive ScriptFault where
  | nullInPath
  | path (fault : PathFault)
  | unknownEncoding (name : String)
  | undecodable (fault : Encoding.Fault)
  deriving DecidableEq, Repr

def ScriptFault.message (path : String) : ScriptFault → String
  | nullInPath => "embedded null byte"
  | .path fault => "[Errno " ++ toString fault.number ++ "] " ++ fault.reason ++ ": " ++ quoted path
  | unknownEncoding name => "unknown encoding: " ++ name
  | undecodable fault => fault.message

namespace Script

/-- The source text in a file that was read, in the encoding of a given name. -/
def decode (encoding : String) : Except PathFault (List UInt8) → Except ScriptFault String
  | .error fault => .error (.path fault)
  | .ok bytes =>
    match Encoding.ofName? encoding with
    | none => .error (.unknownEncoding encoding)
    | some e =>
      match e.decode bytes with
      | .error fault => .error (.undecodable fault)
      | .ok cs => .ok (String.ofList (unifyLineEnds cs))

def read (disk : Node) (path encoding : String) : Except ScriptFault String :=
  if path.toList.contains '\x00' then .error .nullInPath
  else decode encoding (disk.read path)

/-- What becomes of a script that is asked for its tokens: they are returned, or the script cannot
be read, or its first fault is. -/
inductive Tokens where
  | tokens (found : List Token)
  | unreadable (fault : ScriptFault)
  | faulty (fault : Fault)
  deriving DecidableEq, Repr

def tokens (disk : Node) (path encoding : String) : Tokens :=
  match read disk path encoding with
  | .error fault => .unreadable fault
  | .ok source =>
    match Scan.tokens? source path with
    | .error fault => .faulty fault
    | .ok found => .tokens found

end Script

end LoxScan

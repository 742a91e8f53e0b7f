/-! A tree of files and folders, and the reading of a file by its path. A path is followed name by
name from the working folder; what lies outside of it is unknown and counts as empty. -/

namespace LoxScan

/-- A file with its bytes, or a folder with what its names stand for. -/
inductive Node where
  | file (bytes : List UInt8)
  | folder (entries : List (String × Node))

/-- Why a path leads to no file. -/
inductive PathFault where
  | missing
  | isFolder
  | notFolder
  | nameTooLong
  | denied
  deriving DecidableEq, Repr

namespace PathFault

def reason : PathFault → String
  | missing => "No such file or directory"
  | isFolder => "Is a directory"
  | notFolder => "Not a directory"
  | nameTooLong => "File name too long"
  | denied => "Permission denied"

/-- The number of a fault. -/
def number : PathFault → Nat
  | missing => 2
  | isFolder => 21
  | notFolder => 20
  | nameTooLong => 36
  | denied => 13

end PathFault

namespace Node

def empty : Node := folder []

/-- The entries of a folder; a file has none. -/
def entries : Node → List (String × Node)
  | file _ => []
  | folder entries => entries

/-- The names on a path. Slashes separate them, and several count as one. -/
def namesOf (path : String) : List String := (path.splitOn "/").filter (· != "")

/-- The tree with what stands under the given names changed. Folders are made where they are
missing. -/
def update (change : Node → Node) : List String → Node → Node
  | [], node => change node
  | name :: names, node =>
    let below := update change names ((node.entries.lookup name).getD empty)
    folder ((name, below) :: node.entries.filter (·.1 ≠ name))

/-- The place one name further on, both given by the names that lead there from the working folder.
A single dot stays where it is, and two dots lead back. -/
def goOn (place : List String) (name : String) : List String :=
  if name = "." then place
  else if name = ".." then place.dropLast
  else place ++ [name]

/-- The place that names lead to, and the tree with a folder at each place on the way. -/
def passThrough (root : Node) (names : List String) : List String × Node :=
  names.foldl (fun (place, tree) name => (goOn place name, update id (goOn place name) tree))
    ([], root)

/-- The tree with a folder at a path. -/
def makeFolder (root : Node) (path : String) : Node := (root.passThrough (namesOf path)).2

/-- The tree with a file of given bytes at a path. -/
def writeFile (root : Node) (path : String) (bytes : List UInt8) : Node :=
  match (namesOf path).getLast? with
  | none => root
  | some name =>
    let (place, tree) := root.passThrough (namesOf path).dropLast
    update (fun _ => file bytes) (goOn place name) tree

/-- A name is at most this many bytes long. -/
def longestName : Nat := 255

/-- A path is shorter than this many bytes. -/
def pathLimit : Nat := 4096

/-- Follows names from `here`. The folders passed on the way are `above`, the nearest first, so that
two dots lead back. -/
def walk : List String → List Node → Node → Except PathFault Node
  | [], _, here => .ok here
  | _ :: _, _, file _ => .error .notFolder
  | name :: names, above, folder entries =>
    if name = "." then walk names above (folder entries)
    else if name = ".." then walk names (above.drop 1) (above.headD empty)
    else if longestName < name.utf8ByteSize then .error .nameTooLong
    else match entries.lookup name with
      | none => .error .missing
      | some node => walk names (folder entries :: above) node

/-- What a path leads to from the working folder. A path that starts with a slash leaves it. -/
def find (root : Node) (path : String) : Except PathFault Node :=
  if path = "" then .error .missing
  else if pathLimit ≤ path.utf8ByteSize then .error .nameTooLong
  else walk (namesOf path) [] (if path.startsWith "/" then empty else root)

/-- The bytes of the file that a path leads to. A slash at the end asks for a folder. -/
def read (root : Node) (path : String) : Except PathFault (List UInt8) :=
  match root.find path with
  | .error fault => .error fault
  | .ok (folder _) => .error .isFolder
  | .ok (file bytes) => if path.endsWith "/" then .error .notFolder else .ok bytes

end Node

end LoxScan

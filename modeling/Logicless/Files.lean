import Logicless.Dictionary
import Logicless.Files.Path

namespace Logicless

inductive Entry where
  | file (content : ByteArray)
  /-- The entries of a directory are a `Dictionary`, in increasing order of their names. -/
  | directory (entries : List (String × Entry))

instance : Inhabited Entry := ⟨.directory []⟩

/-- What can be wrong with a path. Other faults of a file system, such as missing permissions or
links that go in circles, are left out. -/
inductive FileFault where
  | notFound
  | notDirectory
  | isDirectory
  | notText
deriving DecidableEq

def FileFault.message : FileFault → String
  | notFound => "No such file or directory (os error 2)"
  | notDirectory => "Not a directory (os error 20)"
  | isDirectory => "Is a directory (os error 21)"
  | notText => "stream did not contain valid UTF-8"

structure Place where
  names : List String
  entry : Entry

structure Files where
  root : Dictionary Entry
  workingDirectory : List String

namespace Files

def workingPath (fs : Files) : String :=
  Path.absolute fs.workingDirectory

/-- Follows names from a directory, given the directories above it with the names taken in them,
the nearest first. Empty names and single dots stay in a directory, and two dots leave it. -/
def walk : List (String × Dictionary Entry) → Dictionary Entry → List String →
    Except FileFault Place
  | above, here, [] => .ok ⟨(above.map Prod.fst).reverse, .directory here⟩
  | above, here, name :: names =>
    if name == "" || name == "." then walk above here names
    else if name == ".." then
      match above with
      | [] => walk [] here names
      | (_, up) :: above => walk above up names
    else
      match here.find? name with
      | none => .error .notFound
      | some (.directory entries) => walk ((name, here) :: above) entries names
      | some (.file content) =>
        if names.isEmpty then .ok ⟨((name :: above.map Prod.fst)).reverse, .file content⟩
        else .error .notDirectory

def namesFrom (fs : Files) (path : String) : List String :=
  if Path.isAbsolute path then Path.parts path else fs.workingDirectory ++ Path.parts path

def locate (fs : Files) (path : String) : Except FileFault Place :=
  if path.isEmpty then .error .notFound else walk [] fs.root (fs.namesFrom path)

def pathExists (fs : Files) (path : String) : Bool :=
  (fs.locate path).isOk

def isFile (fs : Files) (path : String) : Bool :=
  match fs.locate path with
  | .ok ⟨_, .file _⟩ => true
  | _ => false

def isDirectory (fs : Files) (path : String) : Bool :=
  match fs.locate path with
  | .ok ⟨_, .directory _⟩ => true
  | _ => false

def names (fs : Files) (path : String) : List String :=
  match fs.locate path with
  | .ok ⟨_, .directory entries⟩ => Dictionary.keys entries
  | _ => []

def children (fs : Files) (path : String) : List String :=
  (fs.names path).map (Path.join path)

def readText (fs : Files) (path : String) : Except FileFault String :=
  match fs.locate path with
  | .error fault => .error fault
  | .ok ⟨_, .directory _⟩ => .error .isDirectory
  | .ok ⟨_, .file content⟩ =>
    match String.fromUTF8? content with
    | some text => .ok text
    | none => .error .notText

def insertAt (entry : Entry) : List String → Dictionary Entry → Dictionary Entry
  | [], d => d
  | [name], d => d.insert name entry
  | name :: names, d =>
    match d.find? name with
    | some (.directory entries) => d.insert name (.directory (insertAt entry names entries))
    | _ => d.insert name (.directory (insertAt entry names []))

def write (fs : Files) (path : String) (text : String) : Except FileFault Files :=
  let names := fs.namesFrom path
  let proper := (names.reverse.dropWhile (· == "")).reverse
  match proper.getLast? with
  | none => .error (if path.isEmpty then .notFound else .isDirectory)
  | some last =>
    if path.isEmpty then .error .notFound
    else
      match walk [] fs.root proper.dropLast with
      | .error fault => .error fault
      | .ok ⟨_, .file _⟩ => .error .notDirectory
      | .ok ⟨above, .directory entries⟩ =>
        if proper.length < names.length || last == "." || last == ".." then .error .isDirectory
        else
          match Dictionary.find? last entries with
          | some (.directory _) => .error .isDirectory
          | _ => .ok { fs with root := insertAt (.file text.toUTF8) (above ++ [last]) fs.root }

end Files

end Logicless

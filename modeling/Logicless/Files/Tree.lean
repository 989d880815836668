import Logicless.Files

namespace Logicless

structure Path.IsName (name : String) : Prop where
  ne_empty : name ≠ ""
  ne_dot : name ≠ "."
  ne_dots : name ≠ ".."
  slash_not_mem : '/' ∉ name.toList

instance (name : String) : Decidable (Path.IsName name) :=
  decidable_of_iff (name ≠ "" ∧ name ≠ "." ∧ name ≠ ".." ∧ '/' ∉ name.toList)
    ⟨fun ⟨h₁, h₂, h₃, h₄⟩ => ⟨h₁, h₂, h₃, h₄⟩, fun ⟨h₁, h₂, h₃, h₄⟩ => ⟨h₁, h₂, h₃, h₄⟩⟩

namespace Entry

inductive WellFormed : Entry → Prop
  | file (content : ByteArray) : WellFormed (.file content)
  | directory {entries : Dictionary Entry} (ordered : entries.Ordered)
      (isName : ∀ e ∈ entries, Path.IsName e.1) (wellFormed : ∀ e ∈ entries, WellFormed e.2) :
      WellFormed (.directory entries)

def isDirectory : Entry → Bool
  | .file _ => false
  | .directory _ => true

def text : Entry → Except FileFault String
  | .directory _ => .error .isDirectory
  | .file content =>
    match String.fromUTF8? content with
    | some text => .ok text
    | none => .error .notText

def child (name : String) : Entry → Except FileFault Entry
  | .file _ => .error .notDirectory
  | .directory entries =>
    match Dictionary.find? name entries with
    | none => .error .notFound
    | some e => .ok e

end Entry

/-- Files in well-formed directories: their names are proper, and each stands once and in order. -/
structure FileTree extends Files where
  wellFormed : Entry.WellFormed (.directory root)

instance : CoeOut FileTree Files := ⟨FileTree.toFiles⟩

namespace Files

def entry (fs : Files) (path : String) : Except FileFault Entry :=
  (fs.locate path).map Place.entry

def entries (fs : Files) (path : String) : Dictionary Entry :=
  match fs.entry path with
  | .ok (.directory entries) => entries
  | _ => []

def subdirectories (fs : Files) (path : String) : List String :=
  ((fs.entries path).filter fun e => e.2.isDirectory).map Prod.fst

end Files

end Logicless

import Logicless.Files

namespace Logicless

mutual

/-- The files at and below an entry with the names that lead to them, given the names above it,
the nearest first. -/
def Entry.files (above : List String) : Entry → List (List String × ByteArray)
  | .file content => [(above.reverse, content)]
  | .directory entries => filesIn above entries

def Entry.filesIn (above : List String) : List (String × Entry) → List (List String × ByteArray)
  | [] => []
  | (name, e) :: es => e.files (name :: above) ++ filesIn above es

end

namespace Files

def files (fs : Files) : List (List String × ByteArray) :=
  Entry.filesIn [] fs.root

/-- The files of the later tree that the earlier one does not have with the same content. -/
def changes (before after : Files) : List (List String × ByteArray) :=
  after.files.filter fun f => !before.files.any fun g => g.1 == f.1 && g.2 == f.2

end Files

end Logicless

import Logicless.Partials
import Logicless.TemplateError

namespace Logicless

def templateExtension : String := "mustache"

def Files.isTemplate (fs : Files) (path : String) : Bool :=
  fs.isFile path && Path.extension? path == some templateExtension

structure PartialsDirectory where
  path : String
  partials : Partials

namespace PartialsDirectory

def empty (path : String) : PartialsDirectory :=
  ⟨path, .empty⟩

def addFile (fs : Files) (ps : Partials) (path : String) : Except TemplateError Partials :=
  let name := (Path.stem? path).getD ""
  match fs.readText path with
  | .error fault => .error (.file fault)
  | .ok source =>
    match ps.insertSource name source with
    | .error e => .error (.inclusion name e)
    | .ok ps => .ok ps

/-- The partials of the template files among the entries of a directory. All of them have to
compile. -/
def ofEntries (fs : Files) (path : String) (entries : List String) :
    Except TemplateError PartialsDirectory :=
  ((entries.filter fs.isTemplate).foldlM (addFile fs) .empty).map fun ps => ⟨path, ps⟩

/-- The partials of a directory; a path that leads to no directory has none. -/
def load (fs : Files) (path : String) : Except TemplateError PartialsDirectory :=
  ofEntries fs path (fs.children path)

end PartialsDirectory

end Logicless

import Logicless.DataFile
import Logicless.Partials.Directory

namespace Logicless

structure Example where
  name : String
  path : String
  template : String
  data : Value
  expected : String
  partials : PartialsDirectory

/-- The files in a directory that make up an example, by the roles that their extensions give. -/
structure ExampleFiles where
  templates : List String
  outputs : List String
  data : List String

namespace ExampleFiles

def ofDirectory (fs : Files) (path : String) : ExampleFiles :=
  let files := (fs.children path).filter fs.isFile
  let having (extensions : List String) :=
    files.filter fun file => (Path.extension? file).any extensions.contains
  ⟨having [templateExtension], having ["txt"], having ["json", "yaml", "yml"]⟩

end ExampleFiles

namespace Example

def read (fs : Files) (path : String) : Except TemplateError String :=
  (fs.readText path).mapError .file

def single (path : String) (defect : Nat → ExampleDefect) :
    List String → Except TemplateError String
  | [file] => .ok file
  | files => .error (.invalidExample path (defect files.length))

def loadData (fs : Files) (path : String) : List String → Except TemplateError Value
  | [] => .ok .empty
  | [file] => DataFile.load fs file
  | _ => .error (.invalidExample path .severalDataFiles)

def ofDirectory (fs : Files) (path : String) : Except TemplateError Example := do
  let files := ExampleFiles.ofDirectory fs path
  let templateFile ← single path .templates files.templates
  let outputFile ← single path .outputs files.outputs
  let data ← loadData fs path files.data
  let template ← read fs templateFile
  let expected ← read fs outputFile
  let partials ← PartialsDirectory.load fs (Path.join path "partials")
  return ⟨(Path.fileName? path).getD "", path, template, data, expected, partials⟩

def load (fs : Files) (root name : String) : Except TemplateError Example :=
  let path := Path.join root name
  if fs.isDirectory path then ofDirectory fs path else .error (.noExample name root)

/-- The examples in the directories under a root, in the order of their names. A directory that
holds no example is left out, so loading them all never fails, and the result is a list rather than
a computation that can fail. -/
def loadAll (fs : Files) (root : String) : List Example :=
  ((fs.children root).filter fs.isDirectory).filterMap fun path => (ofDirectory fs path).toOption

end Example

end Logicless

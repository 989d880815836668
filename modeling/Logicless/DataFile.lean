import Logicless.Json.Reader
import Logicless.TemplateError
import Logicless.Yaml.Document

namespace Logicless.DataFile

def isJson (path : String) : Bool :=
  Path.extension? path == some "json"

def parse (path text : String) : Except TemplateError Value :=
  if isJson path then
    match Json.parse? text with
    | some json => .ok (.ofJson json)
    | none => .error .json
  else
    match Yaml.parse? text with
    | some yaml => .ok (.ofYaml yaml)
    | none => .error .yaml

def load (fs : Files) (path : String) : Except TemplateError Value :=
  match fs.readText path with
  | .error fault => .error (.file fault)
  | .ok text => parse path text

end Logicless.DataFile

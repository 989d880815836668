import Logicless.Files
import Logicless.Template.CompileError
import Logicless.Text.Quoted

namespace Logicless

inductive ExampleDefect where
  | templates (count : Nat)
  | outputs (count : Nat)
  | severalDataFiles
deriving DecidableEq

namespace ExampleDefect

def countMessage (count : Nat) (what : String) : String :=
  if count = 0 then "missing " ++ what else "found " ++ toString count ++ " files for " ++ what

def message : ExampleDefect → String
  | templates count => countMessage count "template (.mustache)"
  | outputs count => countMessage count "expected output (.txt)"
  | severalDataFiles => "more than one data file"

end ExampleDefect

inductive TemplateError where
  | noExample (name root : String)
  | invalidExample (path : String) (defect : ExampleDefect)
  | compile (error : CompileError)
  | inclusion (name : String) (error : CompileError)
  | file (fault : FileFault)
  | yaml
  | json
deriving DecidableEq

namespace TemplateError

/-- The wording of an error. A parser of documents says what it stumbles over, and where; that cause
is left out here, and a constant stands in its place. -/
def message : TemplateError → String
  | noExample name root =>
    "Template not found: No example '" ++ name ++ "' in " ++ Text.quoted root
  | invalidExample path defect => "Invalid example in " ++ path ++ ": " ++ defect.message
  | compile e => "Template compilation failed: " ++ e.message
  | inclusion name e => "Partial '" ++ name ++ "' failed to compile: " ++ e.message
  | file fault => "IO error: " ++ fault.message
  | yaml => "YAML error: not a document"
  | json => "JSON error: not a document"

def messages (e : TemplateError) : List String :=
  match e with
  | compile cause | inclusion _ cause => [e.message, cause.message, cause.detail]
  | file fault => [e.message, fault.message]
  | _ => [e.message]

end TemplateError

end Logicless

import Logicless.TemplateError
import Logicless.Text.Cut

namespace Logicless.CommandLine

inductive Failure where
  | template (path : String) (fault : FileFault)
  | compile (path : String) (error : CompileError)
  | data (path : String) (error : TemplateError)
  | partials (path : String) (error : TemplateError)
  | output (path : String) (fault : FileFault)
  /-- Some of the templates to check do not compile; the error is that of the first. -/
  | broken (error : CompileError)
  | noExamples (path : String)
  | loadExample (error : TemplateError)
  | examples (count : Nat)
deriving DecidableEq

namespace Failure

def headline : Failure → String
  | template path _ => "Template not found: " ++ Text.quoted path
  | compile path _ => "Failed to compile " ++ Text.quoted path
  | data path _ => "Failed to load data " ++ Text.quoted path
  | partials path _ => "Failed to load partials from " ++ Text.quoted path
  | output path _ => "Failed to write " ++ Text.quoted path
  | broken _ => "One or more templates failed to compile"
  | noExamples path => "Examples directory not found: " ++ Text.quoted path
  | loadExample _ => "Failed to load example"
  | examples count => toString count ++ " example(s) failed"

def causes : Failure → List String
  | template _ fault | output _ fault => [fault.message]
  | compile _ e | broken e => [e.message, e.detail]
  | data _ e | partials _ e | loadExample e => e.messages
  | noExamples _ | examples _ => []

def message (f : Failure) : String :=
  ": ".intercalate (f.headline :: f.causes)

def codeOfCause? : Failure → Option Nat
  | compile _ _ | broken _ => some 4
  | data _ e | partials _ e | loadExample e =>
    match e with
    | .compile _ | .inclusion _ _ => some 4
    | .noExample _ _ => some 2
    | _ => none
  | _ => none

def mentions (text word : String) : Bool :=
  Text.occurs word.toList (text.toList.map Char.toLower)

def codeOfHeadline (headline : String) : Nat :=
  if mentions headline "argument" || mentions headline "not found" then 2
  else if mentions headline "example" then 3
  else 1

/-- 4 for templates that do not compile, 2 for what is not there, 3 for examples, and 1 for all
other failures. -/
def exitCode (f : Failure) : Nat :=
  f.codeOfCause?.getD (codeOfHeadline f.headline)

end Failure

end Logicless.CommandLine

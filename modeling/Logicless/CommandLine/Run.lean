import Logicless.CommandLine.Command
import Logicless.CommandLine.Failure
import Logicless.Example.Suite

namespace Logicless.CommandLine

/-- What a command has done: its output, the files as they are now, and how it failed if it did. -/
structure Outcome where
  output : String
  files : Files
  failure : Option Failure

namespace Outcome

def failed (fs : Files) (f : Failure) : Outcome :=
  ⟨"", fs, some f⟩

def exitCode (o : Outcome) : Nat :=
  (o.failure.map Failure.exitCode).getD 0

def errorOutput (o : Outcome) : String :=
  match o.failure with
  | some f => "❌ Error: " ++ f.message ++ "\n"
  | none => ""

end Outcome

namespace RenderCommand

def loadData (fs : Files) (c : RenderCommand) : Except Failure Value :=
  match c.data with
  | none => .ok .empty
  | some path => (DataFile.load fs path).mapError (.data path)

def loadPartials (fs : Files) (c : RenderCommand) : Except Failure PartialsDirectory :=
  match c.partials with
  | none => .ok (.empty "")
  | some path => (PartialsDirectory.load fs path).mapError (.partials path)

def text (fs : Files) (c : RenderCommand) : Except Failure String := do
  let source ← (fs.readText c.template).mapError (.template c.template)
  let template ← (Template.compile source).mapError (.compile c.template)
  let data ← c.loadData fs
  let directory ← c.loadPartials fs
  return template.render directory.partials.resolve ⟨c.maxPartialDepth⟩ data

/-- Nothing is printed or written unless all went well. -/
def run (fs : Files) (c : RenderCommand) : Outcome :=
  match c.text fs with
  | .error f => .failed fs f
  | .ok text =>
    match c.output with
    | none => ⟨text, fs, none⟩
    | some path =>
      match fs.write path text with
      | .error fault => .failed fs (.output path fault)
      | .ok fs => ⟨"", fs, none⟩

end RenderCommand

def verdict (path : String) : Except CompileError Template → String
  | .ok _ => "✅ " ++ path ++ "\n"
  | .error e => "❌ " ++ path ++ ": " ++ e.message ++ "\n"

/-- Checks templates one after the other, given the first error so far; one that cannot be read
ends the check. -/
def checkAll (fs : Files) : Option CompileError → List String → String × Option Failure
  | first, [] => ("", first.map .broken)
  | first, path :: paths =>
    match fs.readText path with
    | .error fault => ("", some (.template path fault))
    | .ok source =>
      let compiled := Template.compile source
      let first :=
        match compiled with
        | .error e => first.or (some e)
        | .ok _ => first
      let (output, failure) := checkAll fs first paths
      (verdict path compiled ++ output, failure)

def check (fs : Files) (paths : List String) : Outcome :=
  let (output, failure) := checkAll fs none paths
  ⟨output, fs, failure⟩

def exampleLines (o : ExampleOutcome) : String :=
  if o.passed then o.name ++ "... ✅\n"
  else
    let details :=
      match o.actual with
      | .error e => "   - " ++ e.message ++ "\n"
      | .ok actual =>
        "   - expected: " ++ Text.quoted o.expected ++ "\n" ++
          "   - actual:   " ++ Text.quoted actual ++ "\n"
    o.name ++ "... ❌\n" ++ details

def reportLines (r : SuiteReport) : String :=
  "🧪 Running " ++ toString r.outcomes.length ++ " example(s)...\n\n" ++
    String.join (r.outcomes.map exampleLines) ++
    "\nResults: " ++ toString r.passed ++ " passed, " ++ toString r.failed ++ " failed\n"

def runSuite (fs : Files) (examples : List Example) : Outcome :=
  if examples.isEmpty then ⟨"⚠️  No examples found to run\n", fs, none⟩
  else
    let r := SuiteReport.ofExamples examples
    ⟨reportLines r, fs, if r.allPassed then none else some (.examples r.failed)⟩

def runExamples (fs : Files) (name directory : Option String) : Outcome :=
  let root := directory.getD (Path.join fs.workingPath examplesDirectory)
  if !fs.pathExists root then .failed fs (.noExamples root)
  else
    match name with
    | none => runSuite fs (Example.loadAll fs root)
    | some name =>
      match Example.load fs root name with
      | .error e => .failed fs (.loadExample e)
      | .ok e => runSuite fs [e]

def Command.run (fs : Files) : Command → Outcome
  | .render command => command.run fs
  | .check templates => CommandLine.check fs templates
  | .runExamples name directory => CommandLine.runExamples fs name directory

structure Effect where
  exitCode : Nat
  output : String
  errorOutput : String
  files : Files

def usage : String :=
  "Usage: stache [-v] [-q] COMMAND\n\n" ++
    "  render TEMPLATE [-d FILE] [-p DIR] [-o FILE] [--max-partial-depth N]\n" ++
    "  check TEMPLATE...\n" ++
    "  smoke-examples [-e NAME] [--examples-dir DIR]\n"

def run (fs : Files) (environment : Option String) (words : List String) : Effect :=
  match Reading.ofWords environment words with
  | .command command =>
    let o := command.run fs
    ⟨o.exitCode, o.output, o.errorOutput, o.files⟩
  | .stopped program .version => ⟨0, program ++ " " ++ version ++ "\n", "", fs⟩
  | .stopped _ .help => ⟨0, usage, "", fs⟩
  | .stopped _ .misuse => ⟨2, "", usage, fs⟩

end Logicless.CommandLine

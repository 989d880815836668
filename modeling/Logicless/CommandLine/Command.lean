import Logicless.CommandLine.Options
import Logicless.Files.Path
import Logicless.Render

namespace Logicless.CommandLine

structure RenderCommand where
  template : String
  data : Option String
  partials : Option String
  output : Option String
  maxPartialDepth : Nat
deriving DecidableEq

def examplesDirectory : String := "fixtures"

inductive Command where
  | render (command : RenderCommand)
  | check (templates : List String)
  | runExamples (name directory : Option String)
deriving DecidableEq

/-- What a command looks at: paths, and how many levels of directories below each. -/
def Command.views : Command → List (String × Nat)
  | render c =>
    [(c.partials.getD "", 1), (c.template, 0), (c.data.getD "", 0), (c.output.getD "", 0)]
  | check templates => templates.map fun path => (path, 0)
  | runExamples name directory =>
    let root := directory.getD examplesDirectory
    (root, 3) :: (name.map fun name => (Path.join root name, 2)).toList

/-- What a command line says, or why there is nothing to carry out; the name of the program comes
with that. -/
inductive Reading where
  | command (command : Command)
  | stopped (program : String) (stop : Stop)
deriving DecidableEq

def programName : String := "stache"

def version : String := "0.1.0"

/-- A number of at most 64 bits in decimal digits, with a plus before it or not. -/
def depth? (value : String) : Option Nat :=
  let cs := value.toList
  let digits := if cs.head? == some '+' then cs.drop 1 else cs
  if digits.isEmpty || !digits.all Char.isDigit then none
  else
    let n := digitsValue 0 digits
    if n < Nat.pow 2 64 then some n else none

def commonOptions : List OptionSpec :=
  [.flag "verbose" 'v', .flag "quiet" 'q']

def leadingGrammar : Grammar :=
  ⟨commonOptions, none⟩

def renderGrammar : Grammar :=
  ⟨commonOptions ++
    [.path "data" (some 'd'), .path "partials" (some 'p'), .path "output" (some 'o'),
      ⟨"max-partial-depth", none, true, fun value => (depth? value).isSome⟩],
    some 1⟩

def checkGrammar : Grammar :=
  ⟨commonOptions, none⟩

def examplesGrammar : Grammar :=
  ⟨commonOptions ++
    [⟨"example", some 'e', true, fun _ => true⟩, .path "examples-dir" none],
    some 0⟩

def renderCommand (g : Given) : Except Stop Command :=
  match g.operands with
  | [template] =>
    let depth := (g.value? "max-partial-depth").bind depth?
    .ok (.render ⟨template, g.value? "data", g.value? "partials", g.value? "output",
      depth.getD RenderOptions.default.maxPartialDepth⟩)
  | _ => .error .misuse

def checkCommand (g : Given) : Except Stop Command :=
  if g.operands.isEmpty then .error .misuse else .ok (.check g.operands)

def examplesCommand (environment : Option String) (g : Given) : Except Stop Command :=
  match g.value? "examples-dir", environment with
  | some directory, _ => .ok (.runExamples (g.value? "example") (some directory))
  | none, some "" => .error .misuse
  | none, directory => .ok (.runExamples (g.value? "example") directory)

def commandNames : List String :=
  ["render", "check", "smoke-examples", "help"]

def helpReading (topics : List String) : Reading :=
  match topics with
  | [] => .stopped programName .help
  | [topic] => .stopped programName (if commandNames.contains topic then .help else .misuse)
  | _ => .stopped programName .misuse

def readCommand (environment : Option String) (name : String) (words : List String) : Reading :=
  let program := programName ++ "-" ++ name
  let finish (grammar : Grammar) (make : Given → Except Stop Command) : Reading :=
    match grammar.read none .none words with
    | .error stop => .stopped program stop
    | .ok g =>
      match make g with
      | .ok command => .command command
      | .error stop => .stopped program stop
  match name with
  | "render" => finish renderGrammar renderCommand
  | "check" => finish checkGrammar checkCommand
  | "smoke-examples" => finish examplesGrammar (examplesCommand environment)
  | "help" => helpReading words
  | _ => .stopped programName .misuse

def Reading.ofWords (environment : Option String) (words : List String) : Reading :=
  match leadingGrammar.readLeading .none words with
  | .ok (name, words) => readCommand environment name words
  | .error stop => .stopped programName stop

end Logicless.CommandLine

import Logicless.Dictionary

namespace Logicless.CommandLine

structure OptionSpec where
  long : String
  letter : Option Char
  takesValue : Bool
  accepts : String → Bool

namespace OptionSpec

def flag (long : String) (letter : Char) : OptionSpec :=
  ⟨long, some letter, false, fun _ => true⟩

def path (long : String) (letter : Option Char) : OptionSpec :=
  ⟨long, letter, true, fun value => !value.isEmpty⟩

end OptionSpec

inductive Stop where
  | help
  | version
  | misuse
deriving DecidableEq

structure Given where
  /-- Options under their long names; the value of a flag is empty. -/
  options : List (String × String)
  operands : List String

namespace Given

def none : Given := ⟨[], []⟩

def value? (g : Given) (long : String) : Option String :=
  g.options.lookup long

def addOption (g : Given) (o : OptionSpec) (value : String) : Except Stop Given :=
  if (g.value? o.long).isSome || !o.accepts value then .error .misuse
  else .ok { g with options := (o.long, value) :: g.options }

end Given

structure Grammar where
  options : List OptionSpec
  maxOperands : Option Nat

namespace Grammar

def addOperand (r : Grammar) (g : Given) (operand : String) : Except Stop Given :=
  if operand.isEmpty || r.maxOperands.any (· ≤ g.operands.length) then .error .misuse
  else .ok { g with operands := g.operands ++ [operand] }

/-- Reads a long option without its hyphens; the option that is returned still needs a value. -/
def readLong (r : Grammar) (g : Given) (word : List Char) :
    Except Stop (Given × Option OptionSpec) :=
  let name := String.ofList (word.takeWhile (· != '='))
  let attached :=
    match word.dropWhile (· != '=') with
    | [] => none
    | _ :: value => some (String.ofList value)
  match name, attached with
  | "help", none => .error .help
  | "version", none => .error .version
  | name, attached =>
    match r.options.find? fun o => o.long == name with
    | none => .error .misuse
    | some o =>
      match attached with
      | some value =>
        if o.takesValue then (g.addOption o value).map fun g => (g, none) else .error .misuse
      | none =>
        if o.takesValue then .ok (g, some o) else (g.addOption o "").map fun g => (g, none)

/-- Reads letters behind one hyphen: flags, and at the end maybe an option with its value. -/
def readLetters (r : Grammar) (g : Given) : List Char → Except Stop (Given × Option OptionSpec)
  | [] => .ok (g, none)
  | 'h' :: _ => .error .help
  | 'V' :: _ => .error .version
  | c :: cs =>
    match r.options.find? fun o => o.letter == some c with
    | none => .error .misuse
    | some o =>
      if !o.takesValue then
        match g.addOption o "" with
        | .ok g => readLetters r g cs
        | .error stop => .error stop
      else
        match cs with
        | [] => .ok (g, some o)
        | '=' :: value => (g.addOption o (String.ofList value)).map fun g => (g, none)
        | value => (g.addOption o (String.ofList value)).map fun g => (g, none)

def isOption (word : String) : Bool :=
  word.toList.head? == some '-' && word != "-"

def readOption (r : Grammar) (g : Given) (word : String) :
    Except Stop (Given × Option OptionSpec) :=
  match word.toList with
  | '-' :: '-' :: name => r.readLong g name
  | _ :: letters => r.readLetters g letters
  | [] => .error .misuse

/-- Reads words from the left, the first of which may be the value of an option; the first word that
is out of place decides. Behind two hyphens all words are operands. -/
def read (r : Grammar) : Option OptionSpec → Given → List String → Except Stop Given
  | none, g, [] => .ok g
  | some _, _, [] => .error .misuse
  | some o, g, word :: words =>
    if isOption word then .error .misuse
    else
      match g.addOption o word with
      | .ok g => read r none g words
      | .error stop => .error stop
  | none, g, word :: words =>
    if word == "--" then words.foldlM r.addOperand g
    else if isOption word then
      match r.readOption g word with
      | .ok (g, pending) => read r pending g words
      | .error stop => .error stop
    else
      match r.addOperand g word with
      | .ok g => read r none g words
      | .error stop => .error stop

def readLeading (r : Grammar) : Given → List String → Except Stop (String × List String)
  | _, [] => .error .misuse
  | g, word :: words =>
    if word == "--" then .error .misuse
    else if isOption word then
      match r.readOption g word with
      | .ok (g, none) => readLeading r g words
      | .ok (_, some _) => .error .misuse
      | .error stop => .error stop
    else .ok (word, words)

end Grammar

end Logicless.CommandLine

import Logicless.Template.Token

namespace Logicless

inductive Node where
  | text (content : String)
  | interpolation (name : String) (escaped : Bool)
  | block (name : String) (inverted : Bool) (children : List Node)
  | inclusion (name : String)

structure OpenSection where
  name : String
  inverted : Bool
  offset : Nat
  siblings : List Node

namespace Node

/-- Reads tokens with the sections that are open, the innermost first, and the nodes before them
in the innermost one, the nearest first. -/
def build : List OpenSection → List Node → List Token → Except NestingError (List Node)
  | [], before, [] => .ok before.reverse
  | s :: _, _, [] => .error ⟨.unclosed, s.name, s.offset⟩
  | opened, before, .text content :: tokens => build opened (.text content :: before) tokens
  | opened, before, .tag kind name span :: tokens =>
    match kind with
    | .escapedVariable => build opened (.interpolation name true :: before) tokens
    | .unescapedVariable => build opened (.interpolation name false :: before) tokens
    | .inclusion => build opened (.inclusion name :: before) tokens
    | .comment => build opened before tokens
    | .sectionOpen => build (⟨name, false, span.start, before⟩ :: opened) [] tokens
    | .invertedSectionOpen => build (⟨name, true, span.start, before⟩ :: opened) [] tokens
    | .sectionClose =>
      match opened with
      | [] => .error ⟨.unbalanced, name, span.start⟩
      | s :: opened =>
        if s.name = name then
          build opened (.block s.name s.inverted before.reverse :: s.siblings) tokens
        else .error ⟨.unbalanced, name, span.start⟩

/-- The nodes that tokens make up: every close tag has to match the innermost open section, and
no section may stay open. -/
def ofTokens (tokens : List Token) : Except NestingError (List Node) :=
  build [] [] tokens

def ofSource (source : String) : Except CompileError (List Node) :=
  match tokenize source with
  | .error e => .error (.scan e)
  | .ok tokens =>
    match ofTokens tokens with
    | .error e => .error (.nesting e)
    | .ok nodes => .ok nodes

end Node

end Logicless

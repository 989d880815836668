import Logicless.Template.Node

namespace Logicless

inductive Lexeme where
  | text (content : String)
  | tag (kind : TagKind) (name : String)
deriving DecidableEq

def Token.lexeme : Token → Lexeme
  | .text content => .text content
  | .tag kind name _ => .tag kind name

def Lexeme.isComment : Lexeme → Bool
  | .tag .comment _ => true
  | _ => false

def Token.lexemes (tokens : List Token) : List Lexeme :=
  (tokens.map Token.lexeme).filter fun l => !l.isComment

namespace Node

def openKind (inverted : Bool) : TagKind :=
  if inverted then .invertedSectionOpen else .sectionOpen

mutual

/-- The lexemes of a node; those of a section stand between its own two tags. -/
def lexemes : Node → List Lexeme
  | text content => [.text content]
  | interpolation name true => [.tag .escapedVariable name]
  | interpolation name false => [.tag .unescapedVariable name]
  | block name inverted children =>
    .tag (openKind inverted) name :: allLexemes children ++ [.tag .sectionClose name]
  | inclusion name => [.tag .inclusion name]

def allLexemes : List Node → List Lexeme
  | [] => []
  | node :: nodes => lexemes node ++ allLexemes nodes

end

@[simp] theorem allLexemes_append (ns ms : List Node) :
    allLexemes (ns ++ ms) = allLexemes ns ++ allLexemes ms := by
  induction ns with
  | nil => rfl
  | cons n ns ih => simp [allLexemes, ih]

end Node

end Logicless

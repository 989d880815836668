import Logicless.Template.Node

namespace Logicless

open Text

namespace Node

def printTag (sigil : List Char) (name : String) : List Char :=
  openMark ++ sigil ++ ' ' :: name.toList ++ ' ' :: closeMark

def openSigil (inverted : Bool) : List Char :=
  if inverted then ['^'] else ['#']

def emptyComment : List Char :=
  openMark ++ '!' :: closeMark

mutual

def print : Node → List Char
  | text content => content.toList
  | interpolation name true => printTag [] name
  | interpolation name false => openMark ++ '{' :: ' ' :: name.toList ++ ' ' :: tripleCloseMark
  | block name inverted children =>
    printTag (openSigil inverted) name ++ printFrom false children ++ printTag ['/'] name
  | inclusion name => printTag ['>'] name

/-- Prints nodes, behind a text or not; an empty comment keeps two texts apart. -/
def printFrom (afterText : Bool) : List Node → List Char
  | [] => []
  | text content :: nodes =>
    (if afterText then emptyComment else []) ++ content.toList ++ printFrom true nodes
  | node :: nodes => print node ++ printFrom false nodes

end

def source (nodes : List Node) : String :=
  String.ofList (printFrom false nodes)

def IsName (mark : List Char) (name : String) : Prop :=
  Trimmed name.toList ∧ occurs mark name.toList = false

def IsPlainName (name : String) : Prop :=
  IsName closeMark name ∧ name.toList.head?.bind TagKind.ofSigil? = none

/-- A literal text; only one at the end of a template may end in a brace. -/
def IsText (atEnd : Bool) (content : String) : Prop :=
  content ≠ "" ∧ occurs openMark content.toList = false ∧
    (content.toList.getLast? = some '{' → atEnd = true)

mutual

/-- A node that some template has, at its end or not. -/
def Printable (atEnd : Bool) : Node → Prop
  | text content => IsText atEnd content
  | interpolation name true => IsPlainName name
  | interpolation name false => IsName tripleCloseMark name
  | block name _ children => IsName closeMark name ∧ AllPrintable false children
  | inclusion name => IsName closeMark name

def AllPrintable (atEnd : Bool) : List Node → Prop
  | [] => True
  | node :: nodes => Printable (atEnd && nodes.isEmpty) node ∧ AllPrintable atEnd nodes

end

end Node

end Logicless

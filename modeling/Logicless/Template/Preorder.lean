import Logicless.Template

namespace Logicless

namespace Node

mutual

def preorder : Node → List Node
  | block name inverted children => block name inverted children :: allPreorder children
  | text content => [text content]
  | interpolation name escaped => [interpolation name escaped]
  | inclusion name => [inclusion name]

def allPreorder : List Node → List Node
  | [] => []
  | node :: nodes => preorder node ++ allPreorder nodes

end

def lookupName? : Node → Option String
  | interpolation name _ => some name
  | block name _ _ => some name
  | _ => none

def inclusionName? : Node → Option String
  | inclusion name => some name
  | _ => none

@[simp] theorem allPreorder_append (ns ms : List Node) :
    allPreorder (ns ++ ms) = allPreorder ns ++ allPreorder ms := by
  induction ns with
  | nil => rfl
  | cons n ns ih => simp [allPreorder, ih]

end Node

namespace Template

/-- The names of the values that a template shows or has sections for. -/
def lookupNames (t : Template) : List String :=
  (Node.allPreorder t.nodes).filterMap Node.lookupName?

def inclusionNames (t : Template) : List String :=
  (Node.allPreorder t.nodes).filterMap Node.inclusionName?

end Template

end Logicless

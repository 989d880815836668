import Logicless.Proofs.Template.Printing

namespace Logicless

namespace Node

mutual

def unescaped : Node → Node
  | text content => text content
  | interpolation name _ => interpolation name false
  | block name inverted children => block name inverted (allUnescaped children)
  | inclusion name => inclusion name

def allUnescaped : List Node → List Node
  | [] => []
  | node :: nodes => unescaped node :: allUnescaped nodes

end

mutual

theorem Printable.unescaped {atEnd : Bool} : ∀ {n : Node},
    Printable atEnd n → Printable atEnd n.unescaped
  | .text _, h => h
  | .interpolation _ true, h => h.1.triple
  | .interpolation _ false, h => h
  | .inclusion _, h => h
  | .block _ _ _, h => ⟨h.1, AllPrintable.unescaped h.2⟩

theorem AllPrintable.unescaped {atEnd : Bool} : ∀ {ns : List Node},
    AllPrintable atEnd ns → AllPrintable atEnd (allUnescaped ns)
  | [], _ => trivial
  | [_], h => ⟨h.1.unescaped, trivial⟩
  | _ :: _ :: _, h => ⟨h.1.unescaped, AllPrintable.unescaped h.2⟩

end

end Node

/-- The template with no value escaped. -/
def Template.unescaped (t : Template) : Template where
  source := Node.source (Node.allUnescaped t.nodes)
  nodes := Node.allUnescaped t.nodes
  ofSource_eq := Node.ofSource_source (Node.allPrintable_of_ofSource t.ofSource_eq).unescaped

end Logicless

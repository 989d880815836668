import Logicless.Render
import Logicless.Template.Preorder

namespace Logicless

namespace Node

/-- A node that stands among the nodes, or in a partial that they come to include. -/
inductive Reaches (resolve : Resolver) : List Node → Node → Prop
  | here {ns : List Node} {n : Node} (h : n ∈ allPreorder ns) : Reaches resolve ns n
  | inside {ns : List Node} {n : Node} {name : String} {t : Template}
      (h : .inclusion name ∈ allPreorder ns) (ht : resolve name = some t)
      (hn : Reaches resolve t.nodes n) : Reaches resolve ns n

/-- Names of known partials, the first of which the nodes include and each of which includes the
next. -/
inductive Chain (resolve : Resolver) : List Node → List String → Prop
  | nil (ns : List Node) : Chain resolve ns []
  | cons {ns : List Node} {name : String} {t : Template} {names : List String}
      (h : .inclusion name ∈ allPreorder ns) (ht : resolve name = some t)
      (hnames : Chain resolve t.nodes names) : Chain resolve ns (name :: names)

def ChainsWithin (resolve : Resolver) (length : Nat) (ns : List Node) : Prop :=
  ∀ names, Chain resolve ns names → names.length ≤ length

end Node

inductive Template.Reaches (resolve : Resolver) (t : Template) : Template → Prop
  | refl : Reaches resolve t t
  | step {u v : Template} {name : String} (hu : Reaches resolve t u)
      (hname : name ∈ u.inclusionNames) (hv : resolve name = some v) : Reaches resolve t v

namespace Template

def ComesToInclude (resolve : Resolver) (t : Template) (name : String) : Prop :=
  ∃ u v, t.Reaches resolve u ∧ name ∈ u.inclusionNames ∧ resolve name = some v

def Mentions (resolve : Resolver) (t : Template) (name other : String) : Prop :=
  t.ComesToInclude resolve name ∧ t.ComesToInclude resolve other ∧
    ∃ u, resolve name = some u ∧ other ∈ u.inclusionNames

/-- No partial that the template comes to include comes to include itself. -/
def Acyclic (resolve : Resolver) (t : Template) : Prop :=
  ∀ name, ¬ Relation.TransGen (t.Mentions resolve) name name

end Template

end Logicless

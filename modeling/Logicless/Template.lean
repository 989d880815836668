import Logicless.Template.Node

namespace Logicless

/-- A source that compiles, with its nodes. -/
structure Template where
  source : String
  nodes : List Node
  ofSource_eq : Node.ofSource source = .ok nodes

namespace Template

theorem ext_source {t u : Template} (h : t.source = u.source) : t = u := by
  obtain ⟨source, nodes, hnodes⟩ := t
  obtain ⟨source', nodes', hnodes'⟩ := u
  subst h
  have := hnodes.symm.trans hnodes'
  simp_all

instance : DecidableEq Template := fun t u =>
  decidable_of_iff (t.source = u.source) ⟨ext_source, congrArg source⟩

def compile (source : String) : Except CompileError Template :=
  match h : Node.ofSource source with
  | .error e => .error e
  | .ok nodes => .ok ⟨source, nodes, h⟩

end Template

end Logicless

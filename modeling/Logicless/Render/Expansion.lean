import Logicless.Render.Meaning

namespace Logicless

namespace Node

mutual

def inlined (inline : String → List Node) : Node → List Node
  | block name inverted children => [block name inverted (allInlined inline children)]
  | inclusion name => inline name
  | text content => [text content]
  | interpolation name escaped => [interpolation name escaped]

def allInlined (inline : String → List Node) : List Node → List Node
  | [] => []
  | node :: nodes => inlined inline node ++ allInlined inline nodes

end

/-- Nodes with partials put in place as deep as given and no deeper. -/
def expand (resolve : Resolver) : Nat → List Node → List Node
  | 0 => allInlined fun _ => []
  | depth + 1 => allInlined fun name =>
    match resolve name with
    | some template => expand resolve depth template.nodes
    | none => []

theorem showAllWith_append (inclusion : String → Scope → String) (scope : Scope)
    (ns ms : List Node) :
    showAllWith inclusion scope (ns ++ ms) =
      showAllWith inclusion scope ns ++ showAllWith inclusion scope ms := by
  induction ns with
  | nil => simp [showAllWith]
  | cons n ns ih => simp [showAllWith, ih, String.append_assoc]

mutual

theorem showAllWith_inlined (outer inner : String → Scope → String) (inline : String → List Node)
    (h : ∀ name scope, showAllWith inner scope (inline name) = outer name scope) :
    ∀ (n : Node) (scope : Scope),
      showAllWith inner scope (inlined inline n) = showWith outer scope n
  | .text _, _ => by simp [inlined, showAllWith, showWith]
  | .interpolation _ _, _ => by simp [inlined, showAllWith, showWith]
  | .inclusion name, scope => by simp [inlined, showWith, h]
  | .block name inverted children, scope => by
    simp only [inlined, showAllWith, showWith, String.append_empty]
    congr 1
    exact List.map_congr_left fun inner _ => showAllWith_allInlined _ _ _ h children inner

theorem showAllWith_allInlined (outer inner : String → Scope → String)
    (inline : String → List Node)
    (h : ∀ name scope, showAllWith inner scope (inline name) = outer name scope) :
    ∀ (ns : List Node) (scope : Scope),
      showAllWith inner scope (allInlined inline ns) = showAllWith outer scope ns
  | [], _ => rfl
  | n :: ns, scope => by
    rw [allInlined, showAllWith_append, showAllWith_inlined _ _ _ h n scope,
      showAllWith_allInlined _ _ _ h ns scope, showAllWith]

end

theorem shownIn_expand (resolve : Resolver) (depth : Nat) (scope : Scope) (ns : List Node) :
    shownIn .none 0 scope (expand resolve depth ns) = shownIn resolve depth scope ns := by
  induction depth generalizing scope ns with
  | zero => exact showAllWith_allInlined _ _ _ (fun _ _ => rfl) ns scope
  | succ depth ih =>
    refine showAllWith_allInlined _ _ _ (fun name scope => ?_) ns scope
    cases resolve name with
    | none => rfl
    | some template => exact ih scope template.nodes

end Node

end Logicless

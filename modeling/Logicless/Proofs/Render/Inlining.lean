import Logicless.Proofs.Render.Writing
import Logicless.Render.Expansion
import Logicless.Template.Preorder

namespace Logicless

namespace Node

theorem shownIn_none (depth : Nat) (scope : Scope) (ns : List Node) :
    shownIn .none depth scope ns = shownIn .none 0 scope ns := by
  cases depth with
  | zero => rfl
  | succ depth => rfl

theorem render_expand (resolve : Resolver) (options other : RenderOptions) (data : Value)
    (ns : List Node) :
    render .none other data (expand resolve options.maxPartialDepth ns) =
      render resolve options data ns := by
  rw [render_eq_shownIn, render_eq_shownIn, shownIn_none, shownIn_expand]

def NoInclusion (ns : List Node) : Prop :=
  ∀ n ∈ allPreorder ns, n.inclusionName? = none

theorem NoInclusion.nil : NoInclusion [] := by
  intro n hn
  cases hn

theorem NoInclusion.append {ns ms : List Node} (hns : NoInclusion ns) (hms : NoInclusion ms) :
    NoInclusion (ns ++ ms) := by
  intro n hn
  rw [allPreorder_append] at hn
  rcases List.mem_append.1 hn with hn | hn
  · exact hns n hn
  · exact hms n hn

theorem NoInclusion.singleton {node : Node}
    (h : ∀ n ∈ preorder node, n.inclusionName? = none) : NoInclusion [node] := by
  intro n hn
  rw [allPreorder, allPreorder, List.append_nil] at hn
  exact h n hn

mutual

theorem noInclusion_inlined {inline : String → List Node} (h : ∀ name, NoInclusion (inline name)) :
    ∀ node, NoInclusion (inlined inline node)
  | .text content => by
    refine NoInclusion.singleton fun n hn => ?_
    cases List.mem_singleton.1 hn
    rfl
  | .interpolation name escaped => by
    refine NoInclusion.singleton fun n hn => ?_
    cases List.mem_singleton.1 hn
    rfl
  | .inclusion name => h name
  | .block name inverted children => by
    refine NoInclusion.singleton fun n hn => ?_
    rcases List.mem_cons.1 hn with rfl | hn
    · rfl
    · exact noInclusion_allInlined h children n hn

theorem noInclusion_allInlined {inline : String → List Node}
    (h : ∀ name, NoInclusion (inline name)) : ∀ ns, NoInclusion (allInlined inline ns)
  | [] => .nil
  | n :: ns => .append (noInclusion_inlined h n) (noInclusion_allInlined h ns)

end

theorem noInclusion_expand (resolve : Resolver) (depth : Nat) (ns : List Node) :
    NoInclusion (expand resolve depth ns) := by
  induction depth generalizing ns with
  | zero => exact noInclusion_allInlined (fun _ => .nil) ns
  | succ depth ih =>
    refine noInclusion_allInlined (fun name => ?_) ns
    cases resolve name with
    | none => exact .nil
    | some template => exact ih template.nodes

end Node

/-- To include partials during a render, at most as deep as the options say, is to render the nodes
in which partials have been put in place to that depth. -/
theorem Template.render_eq_render_expand (template : Template) (resolve : Resolver)
    (options other : RenderOptions) (data : Value) :
    template.render resolve options data =
        Node.render .none other data
          (Node.expand resolve options.maxPartialDepth template.nodes) ∧
      Node.NoInclusion (Node.expand resolve options.maxPartialDepth template.nodes) := by
  constructor
  · exact (Node.render_expand resolve options other data template.nodes).symm
  · exact Node.noInclusion_expand resolve options.maxPartialDepth template.nodes

end Logicless

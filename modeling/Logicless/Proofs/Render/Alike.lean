import Logicless.Proofs.Render.Writing
import Logicless.Proofs.Template.Likeness
import Logicless.Render.Expansion

namespace Logicless

namespace Node

variable {inclusion : String → Scope → String}

/-- The nodes show the same text in every scope, given the texts of partials. -/
def Alike (inclusion : String → Scope → String) (ns ms : List Node) : Prop :=
  ∀ scope, showAllWith inclusion scope ns = showAllWith inclusion scope ms

namespace Alike

theorem append {ns ms ns' ms' : List Node} (h : Alike inclusion ns ms)
    (h' : Alike inclusion ns' ms') : Alike inclusion (ns ++ ns') (ms ++ ms') := by
  intro scope
  rw [showAllWith_append, showAllWith_append, h, h']

theorem block {children others : List Node} (h : Alike inclusion children others) (name : String)
    (inverted : Bool) :
    Alike inclusion [.block name inverted children] [.block name inverted others] := by
  intro scope
  have hshow : (showAllWith inclusion · children) = (showAllWith inclusion · others) := funext h
  simp only [showAllWith, showWith, hshow]

theorem texts (a b : String) :
    Alike inclusion [.text a, .text b] [.text (a ++ b)] := by
  intro scope
  simp [showAllWith, showWith]

theorem congruence (inclusion : String → Scope → String) : Congruence (Alike inclusion) where
  refl := fun _ _ => rfl
  trans := fun h h' scope => (h scope).trans (h' scope)
  append := append
  block := block
  texts := texts

end Alike

def partialText (resolve : Resolver) : Nat → String → Scope → String
  | 0, _, _ => ""
  | depth + 1, name, scope =>
    match resolve name with
    | some template => shownIn resolve depth scope template.nodes
    | none => ""

theorem shownIn_eq_showAllWith (resolve : Resolver) (depth : Nat) (scope : Scope)
    (ns : List Node) :
    shownIn resolve depth scope ns = showAllWith (partialText resolve depth) scope ns := by
  cases depth <;> rfl

theorem render_eq_showAllWith (resolve : Resolver) (options : RenderOptions) (data : Value)
    (ns : List Node) :
    render resolve options data ns =
      showAllWith (partialText resolve options.maxPartialDepth) [data] ns := by
  rw [render_eq_shownIn, shownIn_eq_showAllWith]

end Node

end Logicless

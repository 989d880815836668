import Logicless.Render

namespace Logicless

def Value.sectionScopes (v : Value) (scope : Scope) : List Scope :=
  match v with
  | sequence items => items.map (· :: scope)
  | mapping entries => [mapping entries :: scope]
  | _ => [scope]

/-- The scopes in which a section shows its children: an inverted one shows them once, in the same
scope, where a plain one does not show them at all. -/
def Scope.ofSection (name : String) (inverted : Bool) (scope : Scope) : List Scope :=
  match scope.truthy? name, inverted with
  | none, true => [scope]
  | some v, false => v.sectionScopes scope
  | _, _ => []

mutual

/-- The text of a node in a scope, given the texts of partials. -/
def Node.showWith (inclusion : String → Scope → String) (scope : Scope) : Node → String
  | .text content => content
  | .interpolation name escaped => ((scope.lookup? name).map (Value.shown escaped)).getD ""
  | .block name inverted children =>
    String.join <| (scope.ofSection name inverted).map fun inner =>
      showAllWith inclusion inner children
  | .inclusion name => inclusion name scope

def Node.showAllWith (inclusion : String → Scope → String) (scope : Scope) : List Node → String
  | [] => ""
  | node :: nodes => Node.showWith inclusion scope node ++ showAllWith inclusion scope nodes

end

/-- The text of nodes in a scope, with partials nested as deep as given and no deeper. -/
def Node.shownIn (resolve : Resolver) : Nat → Scope → List Node → String
  | 0 => showAllWith fun _ _ => ""
  | depth + 1 => showAllWith fun name scope =>
    match resolve name with
    | some template => shownIn resolve depth scope template.nodes
    | none => ""

end Logicless

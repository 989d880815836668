import Logicless.Html.Entity
import Logicless.Scope
import Logicless.Template
import Logicless.Value.Text

namespace Logicless

abbrev Resolver := String → Option Template

def Resolver.none : Resolver := fun _ => Option.none

structure RenderOptions where
  maxPartialDepth : Nat
deriving DecidableEq

def RenderOptions.default : RenderOptions := ⟨64⟩

def Value.shown (escaped : Bool) (v : Value) : String :=
  if escaped then Html.escape v.output else v.output

def Scope.truthy? (name : String) (scope : Scope) : Option Value :=
  (scope.lookup? name).filter Value.isTruthy

structure Rendering where
  scope : Scope
  output : String

namespace Rendering

def write (r : Rendering) (text : String) : Rendering :=
  { r with output := r.output ++ text }

def push (r : Rendering) (frame : Value) : Rendering :=
  { r with scope := frame :: r.scope }

def pop (r : Rendering) : Rendering :=
  { r with scope := r.scope.tail }

/-- Writes the children of a section of this value: for each element of a sequence with that
element as the innermost frame, for a mapping with the mapping as the innermost frame, and for any
other value once in the same scope. -/
def writeSection (r : Rendering) (v : Value) (children : Rendering → Rendering) : Rendering :=
  match v with
  | .sequence items => items.foldl (fun r item => (children (r.push item)).pop) r
  | .mapping entries => (children (r.push (.mapping entries))).pop
  | _ => children r

end Rendering

mutual

/-- Writes the text of a node; the depth is the number of partials that are open around it. Names
without a value and partials that nobody knows show nothing, so that this cannot fail. -/
def Node.write (resolve : Resolver) (options : RenderOptions) (depth : Nat) (r : Rendering) :
    Node → Rendering
  | .text content => r.write content
  | .interpolation name escaped =>
    match r.scope.lookup? name with
    | some v => r.write (v.shown escaped)
    | none => r
  | .block name inverted children =>
    match r.scope.truthy? name, inverted with
    | none, true => writeAll resolve options depth r children
    | some v, false => r.writeSection v fun r => writeAll resolve options depth r children
    | _, _ => r
  | .inclusion name =>
    if depth ≥ options.maxPartialDepth then r
    else
      match resolve name with
      | some template => writeAll resolve options (depth + 1) r template.nodes
      | none => r
termination_by n => (options.maxPartialDepth - depth, sizeOf n)

def Node.writeAll (resolve : Resolver) (options : RenderOptions) (depth : Nat) (r : Rendering) :
    List Node → Rendering
  | [] => r
  | node :: nodes =>
    writeAll resolve options depth (write resolve options depth r node) nodes
termination_by ns => (options.maxPartialDepth - depth, sizeOf ns)

end

/-- The text that nodes write with the given data as their outermost scope. -/
def Node.render (resolve : Resolver) (options : RenderOptions) (data : Value)
    (nodes : List Node) : String :=
  (Node.writeAll resolve options 0 ⟨[data], ""⟩ nodes).output

def Template.render (template : Template) (resolve : Resolver) (options : RenderOptions)
    (data : Value) : String :=
  Node.render resolve options data template.nodes

end Logicless

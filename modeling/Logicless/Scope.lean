import Logicless.Value

namespace Logicless

abbrev Scope := List Value

namespace Scope

def lookup? (name : String) (scope : Scope) : Option Value :=
  scope.findSome? fun frame => frame.get? name

@[simp] theorem lookup?_nil (name : String) : lookup? name [] = none := rfl

@[simp] theorem lookup?_cons (name : String) (frame : Value) (scope : Scope) :
    lookup? name (frame :: scope) = (frame.get? name).or (lookup? name scope) := by
  simp only [lookup?, List.findSome?_cons]
  cases frame.get? name <;> rfl

/-- The mapping that has under each key what the innermost mapping with that key has. -/
def merged (scope : Scope) : Value :=
  .mapping (scope.foldr (fun frame d => Dictionary.overlay frame.entries d) [])

theorem get?_merged (name : String) (scope : Scope) :
    scope.merged.get? name = scope.lookup? name := by
  induction scope with
  | nil => rfl
  | cons frame scope ih =>
    rw [lookup?_cons, ← ih]
    exact Dictionary.find?_overlay ..

end Scope

end Logicless

import Logicless.Proofs.Render.Congruence
import Logicless.Proofs.Render.Writing

namespace Logicless

namespace Dictionary

theorem Ordered.overlay {lower : Dictionary α} (h : lower.Ordered) (upper : Dictionary α) :
    (overlay upper lower).Ordered := by
  induction upper with
  | nil => exact h
  | cons e upper ih => exact ih.insert e.1 e.2

end Dictionary

theorem Value.get?_eq_some_iff {v w : Value} {key : String} :
    v.get? key = some w ↔
      ∃ entries, v = .mapping entries ∧ Dictionary.find? key entries = some w := by
  constructor
  · intro h
    cases v with
    | mapping entries => exact ⟨entries, rfl, h⟩
    | null | bool _ | number _ | string _ | sequence _ => cases h
  · rintro ⟨entries, rfl, h⟩
    exact h

namespace Scope

theorem ordered_entries_merged (scope : Scope) : scope.merged.entries.Ordered := by
  induction scope with
  | nil => exact .nil
  | cons frame scope ih => exact ih.overlay frame.entries

theorem lookup?_eq_some_iff {scope : Scope} {name : String} {v : Value} :
    scope.lookup? name = some v ↔
      ∃ inner entries outer, scope = inner ++ .mapping entries :: outer ∧
        Dictionary.find? name entries = some v ∧ ∀ frame ∈ inner, frame.get? name = none := by
  rw [lookup?, List.findSome?_eq_some_iff]
  constructor
  · rintro ⟨inner, frame, outer, hscope, hframe, hinner⟩
    obtain ⟨entries, rfl, hv⟩ := Value.get?_eq_some_iff.1 hframe
    exact ⟨inner, entries, outer, hscope, hv, hinner⟩
  · rintro ⟨inner, entries, outer, hscope, hv, hinner⟩
    exact ⟨inner, .mapping entries, outer, hscope, hv, hinner⟩

def Agree (scope other : Scope) : Prop :=
  ∀ name, scope.lookup? name = other.lookup? name

theorem agree_merged (scope : Scope) : scope.Agree [scope.merged] := by
  intro name
  rw [lookup?_cons, lookup?_nil, Option.or_none, get?_merged]

theorem Agree.cons {scope other : Scope} (h : scope.Agree other) (frame : Value) :
    Agree (frame :: scope) (frame :: other) := by
  intro name
  rw [lookup?_cons, lookup?_cons, h]

theorem bisimulation_agree : Bisimulation (fun _ => True) Agree where
  lookup := fun h name _ => h name
  cons := Agree.cons

theorem Agree.shownIn_eq {scope other : Scope} (h : scope.Agree other) (resolve : Resolver)
    (depth : Nat) (ns : List Node) :
    Node.shownIn resolve depth scope ns = Node.shownIn resolve depth other ns :=
  Node.shownIn_congr bisimulation_agree depth (fun _ _ _ _ => trivial) (fun _ _ => rfl) h

/-- In both scopes all nodes add the same text to what was written before, and give back the scope
that they were given. -/
def RendersAs (scope other : Scope) : Prop :=
  ∀ (resolve : Resolver) (options : RenderOptions) (depth : Nat) (nodes : List Node),
    ∃ text, ∀ output,
      Node.writeAll resolve options depth ⟨scope, output⟩ nodes = ⟨scope, output ++ text⟩ ∧
        Node.writeAll resolve options depth ⟨other, output⟩ nodes = ⟨other, output ++ text⟩

theorem Agree.rendersAs {scope other : Scope} (h : scope.Agree other) : scope.RendersAs other := by
  intro resolve options depth nodes
  refine ⟨Node.shownIn resolve (options.maxPartialDepth - depth) scope nodes, fun output => ?_⟩
  constructor
  · rw [Node.writeAll_eq_shownIn]
    rfl
  · rw [Node.writeAll_eq_shownIn, h.shownIn_eq]
    rfl

/-- The merged mapping has under each key what the innermost mapping with that key has, null or not,
and stands for the whole scope in a render; so does every scope that looks names up alike. -/
theorem rendersAs_merged (scope : Scope) :
    scope.merged.entries.Ordered ∧
      (∀ key v, scope.merged.get? key = some v ↔
        ∃ inner entries outer, scope = inner ++ .mapping entries :: outer ∧
          Dictionary.find? key entries = some v ∧ ∀ frame ∈ inner, frame.get? key = none) ∧
      scope.RendersAs [scope.merged] ∧
      ∀ other, scope.Agree other → scope.RendersAs other := by
  refine ⟨ordered_entries_merged scope, fun key v => ?_, scope.agree_merged.rendersAs, ?_⟩
  · rw [get?_merged, lookup?_eq_some_iff]
  · intro other h
    exact h.rendersAs

/-- A null hides what stands under its key further out, and a value without keys hides nothing. -/
theorem null_hides_outer_value :
    RendersAs [.bool true, .mapping [("a", .null)], .mapping [("a", .bool true)]]
      [.mapping [("a", .null)], .null] := by
  refine (rendersAs_merged _).2.2.2 _ fun name => ?_
  by_cases h : "a" = name
  · simp [Value.get?, Value.entries, Dictionary.find?, h]
  · simp [Value.get?, Value.entries, Dictionary.find?, h]

end Scope

end Logicless

import Logicless.Proofs.Render.Alike
import Logicless.Proofs.Render.Congruence

namespace Logicless

namespace Node

theorem showAllWith_congr_inclusion {f g : String → Scope → String} {ns : List Node}
    (h : ∀ name, .inclusion name ∈ allPreorder ns → ∀ scope, f name scope = g name scope)
    (scope : Scope) : showAllWith f scope ns = showAllWith g scope ns := by
  refine showAllWith_congr (.eq fun _ => True) ns (fun _ _ _ _ => trivial) ?_ rfl
  rintro name hname scope _ rfl
  exact h name hname scope

theorem ChainsWithin.of_inclusion {resolve : Resolver} {length : Nat} {ns : List Node}
    (h : ChainsWithin resolve (length + 1) ns) {name : String} {t : Template}
    (hname : .inclusion name ∈ allPreorder ns) (ht : resolve name = some t) :
    ChainsWithin resolve length t.nodes :=
  fun _ hnames => Nat.le_of_succ_le_succ (h _ (.cons hname ht hnames))

theorem ChainsWithin.resolve_eq_none {resolve : Resolver} {ns : List Node}
    (h : ChainsWithin resolve 0 ns) {name : String} (hname : .inclusion name ∈ allPreorder ns) :
    resolve name = none := by
  cases ht : resolve name with
  | none => rfl
  | some t => exact absurd (h _ (.cons hname ht (.nil _))) (Nat.not_succ_le_zero _)

/-- Room for partials beyond the longest chain is never used. -/
theorem ChainsWithin.shownIn_eq {resolve : Resolver} {length : Nat} {ns : List Node}
    (h : ChainsWithin resolve length ns) {depth : Nat} (hdepth : length ≤ depth) (scope : Scope) :
    shownIn resolve depth scope ns = shownIn resolve length scope ns := by
  rw [shownIn_eq_showAllWith, shownIn_eq_showAllWith]
  induction length generalizing ns depth scope with
  | zero =>
    refine showAllWith_congr_inclusion (fun name hname scope => ?_) scope
    cases depth with
    | zero => rfl
    | succ depth => simp only [partialText, h.resolve_eq_none hname]
  | succ length ih =>
    cases depth with
    | zero => exact absurd hdepth (Nat.not_succ_le_zero _)
    | succ depth =>
      refine showAllWith_congr_inclusion (fun name hname scope => ?_) scope
      cases ht : resolve name with
      | none => simp only [partialText, ht]
      | some t =>
        have hshow := ih (h.of_inclusion hname ht) (Nat.le_of_succ_le_succ hdepth) scope
        simpa only [partialText, ht, shownIn_eq_showAllWith] using hshow

end Node

end Logicless

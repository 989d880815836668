import Logicless.Render.Meaning
import Logicless.Render.Reference

namespace Logicless

namespace Scope

/-- A relation between scopes that look these names up alike, whatever frames come on top. -/
structure Bisimulation (names : String → Prop) (related : Scope → Scope → Prop) : Prop where
  lookup : ∀ {scope other}, related scope other → ∀ name, names name →
    scope.lookup? name = other.lookup? name
  cons : ∀ {scope other}, related scope other → ∀ frame, related (frame :: scope) (frame :: other)

theorem Bisimulation.eq (names : String → Prop) : Bisimulation names Eq where
  lookup := by
    rintro scope _ rfl name _
    rfl
  cons := by
    rintro scope _ rfl frame
    rfl

namespace Bisimulation

variable {names : String → Prop} {related : Scope → Scope → Prop}
  (hrelated : Bisimulation names related) {α : Type} {f g : Scope → α}
  (hfg : ∀ {scope other : Scope}, related scope other → f scope = g other)
include hrelated hfg

theorem map_sectionScopes {scope other : Scope} (h : related scope other) (v : Value) :
    (v.sectionScopes scope).map f = (v.sectionScopes other).map g := by
  cases v with
  | sequence items =>
    rw [Value.sectionScopes, Value.sectionScopes, List.map_map, List.map_map]
    exact List.map_congr_left fun item _ => hfg (hrelated.cons h item)
  | mapping entries => exact congrArg (fun a => [a]) (hfg (hrelated.cons h (.mapping entries)))
  | null | bool _ | number _ | string _ => exact congrArg (fun a => [a]) (hfg h)

theorem map_ofSection {scope other : Scope} (h : related scope other) {name : String}
    (hname : names name) (inverted : Bool) :
    (scope.ofSection name inverted).map f = (other.ofSection name inverted).map g := by
  have htruthy : other.truthy? name = scope.truthy? name := by
    rw [truthy?, truthy?, hrelated.lookup h name hname]
  rw [ofSection.eq_def, ofSection.eq_def, htruthy]
  cases scope.truthy? name with
  | none =>
    cases inverted with
    | true => exact congrArg (fun a => [a]) (hfg h)
    | false => rfl
  | some v =>
    cases inverted with
    | true => rfl
    | false => exact map_sectionScopes hrelated hfg h v

end Bisimulation

end Scope

namespace Node

variable {names : String → Prop} {related : Scope → Scope → Prop} {f g : String → Scope → String}

mutual

theorem showWith_congr (hrelated : Scope.Bisimulation names related) : ∀ (n : Node),
    (∀ m ∈ n.preorder, ∀ name ∈ m.lookupName?, names name) →
    (∀ name, .inclusion name ∈ n.preorder →
      ∀ {scope other : Scope}, related scope other → f name scope = g name other) →
      ∀ {scope other : Scope}, related scope other → showWith f scope n = showWith g other n
  | .text _, _, _, _, _, _ => rfl
  | .interpolation name escaped, hnames, _, _, _, h => by
    have hname := hnames (.interpolation name escaped) (List.mem_singleton.2 rfl) name rfl
    rw [showWith, showWith, hrelated.lookup h name hname]
  | .inclusion name, _, hfg, _, _, h => hfg name (List.mem_singleton.2 rfl) h
  | .block name inverted children, hnames, hfg, scope, other, h => by
    have hname := hnames _ List.mem_cons_self name rfl
    have hchildren {scope other : Scope} (h : related scope other) :=
      showAllWith_congr hrelated children (fun m hm => hnames m (List.mem_cons_of_mem _ hm))
        (fun name hname => hfg name (List.mem_cons_of_mem _ hname)) h
    rw [showWith, showWith]
    exact congrArg String.join (hrelated.map_ofSection hchildren h hname inverted)

theorem showAllWith_congr (hrelated : Scope.Bisimulation names related) : ∀ (ns : List Node),
    (∀ m ∈ allPreorder ns, ∀ name ∈ m.lookupName?, names name) →
    (∀ name, .inclusion name ∈ allPreorder ns →
      ∀ {scope other : Scope}, related scope other → f name scope = g name other) →
      ∀ {scope other : Scope}, related scope other → showAllWith f scope ns = showAllWith g other ns
  | [], _, _, _, _, _ => rfl
  | n :: ns, hnames, hfg, _, _, h => by
    have hn := showWith_congr hrelated n (fun m hm => hnames m (List.mem_append_left _ hm))
      (fun name hname => hfg name (List.mem_append_left _ hname)) h
    have hns := showAllWith_congr hrelated ns (fun m hm => hnames m (List.mem_append_right _ hm))
      (fun name hname => hfg name (List.mem_append_right _ hname)) h
    rw [showAllWith, showAllWith, hn, hns]

end

theorem shownIn_congr (hrelated : Scope.Bisimulation names related) {resolve other : Resolver}
    (depth : Nat) {ns : List Node}
    (hnames : ∀ n, Reaches resolve ns n → ∀ name ∈ n.lookupName?, names name)
    (hresolve : ∀ name, Reaches resolve ns (.inclusion name) → resolve name = other name)
    {scope scope' : Scope} (h : related scope scope') :
    shownIn resolve depth scope ns = shownIn other depth scope' ns := by
  have hhere : ∀ m ∈ allPreorder ns, ∀ name ∈ m.lookupName?, names name :=
    fun m hm => hnames m (.here hm)
  induction depth generalizing ns scope scope' with
  | zero => exact showAllWith_congr hrelated ns hhere (fun _ _ _ _ _ => rfl) h
  | succ depth ih =>
    refine showAllWith_congr hrelated ns hhere (fun name hname scope scope' h => ?_) h
    rw [← hresolve name (.here hname)]
    cases ht : resolve name with
    | none => rfl
    | some t =>
      have hinside : ∀ n, Reaches resolve t.nodes n → ∀ name ∈ n.lookupName?, names name :=
        fun n hn => hnames n (.inside hname ht hn)
      exact ih hinside (fun name hn => hresolve name (.inside hname ht hn)) h
        fun m hm => hinside m (.here hm)

end Node

end Logicless

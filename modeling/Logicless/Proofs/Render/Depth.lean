import Mathlib
import Logicless.Partials
import Logicless.Proofs.Dictionary
import Logicless.Proofs.Render.Chains
import Logicless.Proofs.Render.Mention
import Logicless.Render.Unbounded

namespace Logicless

namespace Node

variable {resolve : Resolver}

theorem showsEach_join {ns : List Node} {text : Scope → String}
    (h : ∀ scope, ShowsAll resolve scope ns (text scope)) (scopes : List Scope) :
    ShowsEach resolve scopes ns (String.join (scopes.map text)) := by
  induction scopes with
  | nil => exact .nil ns
  | cons scope scopes ih =>
    rw [List.map_cons, String.join_cons]
    exact .cons (h scope) ih

mutual

theorem shows_showWith {f : String → Scope → String} : ∀ (n : Node),
    (∀ name, .inclusion name ∈ n.preorder →
      ∀ scope, Shows resolve scope (.inclusion name) (f name scope)) →
      ∀ scope, Shows resolve scope n (showWith f scope n)
  | .text content, _, scope => by
    rw [showWith]
    exact .text scope content
  | .interpolation name escaped, _, scope => by
    rw [showWith]
    exact .interpolation scope name escaped
  | .inclusion name, h, scope => by
    rw [showWith]
    exact h name (List.mem_singleton.2 rfl) scope
  | .block name inverted children, h, scope => by
    rw [showWith]
    apply Shows.block
    apply showsEach_join
    intro inner
    apply showsAll_showAllWith
    intro name hname
    exact h name (List.mem_cons_of_mem _ hname)

theorem showsAll_showAllWith {f : String → Scope → String} : ∀ (ns : List Node),
    (∀ name, .inclusion name ∈ allPreorder ns →
      ∀ scope, Shows resolve scope (.inclusion name) (f name scope)) →
      ∀ scope, ShowsAll resolve scope ns (showAllWith f scope ns)
  | [], _, scope => .nil scope
  | n :: ns, h, scope => by
    rw [showAllWith]
    apply ShowsAll.cons
    · apply shows_showWith
      intro name hname
      exact h name (List.mem_append_left _ hname)
    · apply showsAll_showAllWith
      intro name hname
      exact h name (List.mem_append_right _ hname)

end

theorem ChainsWithin.showsAll {length : Nat} {ns : List Node} (h : ChainsWithin resolve length ns)
    (scope : Scope) : ShowsAll resolve scope ns (shownIn resolve length scope ns) := by
  induction length generalizing ns scope with
  | zero =>
    apply showsAll_showAllWith
    intro name hname scope
    exact .unknown scope (h.resolve_eq_none hname)
  | succ length ih =>
    apply showsAll_showAllWith
    intro name hname scope
    cases ht : resolve name with
    | none => exact .unknown scope ht
    | some t => exact .known ht (ih (h.of_inclusion hname ht) scope)

theorem Chain.exists_resolve {ns : List Node} {names : List String} (h : Chain resolve ns names) :
    ∀ name ∈ names, ∃ t, resolve name = some t := by
  induction h with
  | nil => exact fun _ hname => nomatch hname
  | cons _ ht _ ih =>
    intro name hname
    rcases List.mem_cons.1 hname with rfl | hname
    · exact ⟨_, ht⟩
    · exact ih name hname

variable {t : Template}

theorem Chain.transGen {u : Template} {name : String} (hname : t.ComesToInclude resolve name)
    (hu : resolve name = some u) {names : List String} (h : Chain resolve u.nodes names) :
    ∀ other ∈ names, Relation.TransGen (t.Mentions resolve) name other := by
  generalize hns : u.nodes = ns at h
  induction h generalizing name u with
  | nil => exact fun _ hother => nomatch hother
  | @cons _ next v _ hmem hv _ ih =>
    subst hns
    have hnext := Template.mem_inclusionNames hmem
    obtain ⟨w, u', hw, hmention, hu'⟩ := hname
    cases hu.symm.trans hu'
    have hcomes : t.ComesToInclude resolve next := ⟨u, v, hw.step hmention hu, hnext, hv⟩
    have hstep : t.Mentions resolve name next :=
      ⟨⟨w, u, hw, hmention, hu⟩, hcomes, u, hu, hnext⟩
    intro other hother
    rcases List.mem_cons.1 hother with rfl | hother
    · exact .single hstep
    · exact .head hstep (ih hcomes hv rfl other hother)

theorem Chain.pairwise {u : Template} (hu : t.Reaches resolve u) {names : List String}
    (h : Chain resolve u.nodes names) :
    names.Pairwise (Relation.TransGen (t.Mentions resolve)) := by
  generalize hns : u.nodes = ns at h
  induction h generalizing u with
  | nil => exact .nil
  | @cons _ name v _ hmem hv hrest ih =>
    subst hns
    have hname := Template.mem_inclusionNames hmem
    have hcomes : t.ComesToInclude resolve name := ⟨u, v, hu, hname, hv⟩
    exact .cons (hrest.transGen hcomes hv) (ih (hu.step hname hv) rfl)

theorem Chain.nodup (ht : t.Acyclic resolve) {names : List String}
    (h : Chain resolve t.nodes names) : names.Nodup := by
  apply (h.pairwise .refl).imp
  intro name other hleads heq
  subst heq
  exact ht name hleads

end Node

namespace Template

theorem Acyclic.of_rank {resolve : Resolver} {t : Template} (rank : String → Nat)
    (h : ∀ name other, t.Mentions resolve name other → rank other < rank name) :
    t.Acyclic resolve := by
  have hdown {name other : String} (hleads : Relation.TransGen (t.Mentions resolve) name other) :
      rank other < rank name := by
    induction hleads with
    | single hstep => exact h _ _ hstep
    | tail _ hstep ih => exact Nat.lt_trans (h _ _ hstep) ih
  intro name hleads
  exact Nat.lt_irrefl _ (hdown hleads)

/-- Without cycles a chain takes each partial once, so it has no more names than there are partials.
-/
theorem Acyclic.chainsWithin {ps : Partials} {t : Template} (h : t.Acyclic ps.resolve) :
    Node.ChainsWithin ps.resolve ps.size t.nodes := by
  intro names hnames
  have hsubset : names ⊆ ps.names := by
    intro name hname
    exact Table.mem_keys_iff.2 (hnames.exists_resolve name hname)
  calc names.length
    _ ≤ ps.names.length := (hnames.nodup h).length_le_of_subset hsubset
    _ = ps.size := ps.bindings.size_eq_length.symm

/-- As soon as partials may be nested as deep as their chains are long, their depth does not matter:
each known one is shown. Without cycles the number of partials is deep enough. -/
theorem render_depth_invisible :
    (∀ (ps : Partials) (t : Template), t.Acyclic ps.resolve → ∀ (data : Value) (depth depth' : Nat),
      ps.size ≤ depth → ps.size ≤ depth' →
        t.render ps.resolve ⟨depth⟩ data = t.render ps.resolve ⟨depth'⟩ data) ∧
      ∀ (resolve : Resolver) (t : Template) (length : Nat),
        Node.ChainsWithin resolve length t.nodes → ∀ (data : Value) (depth : Nat), length ≤ depth →
          ∀ text, t.render resolve ⟨depth⟩ data = text ↔
            Node.ShowsAll resolve [data] t.nodes text := by
  have hrender {resolve : Resolver} {t : Template} {length depth : Nat}
      (h : Node.ChainsWithin resolve length t.nodes) (hdepth : length ≤ depth) (data : Value) :
      t.render resolve ⟨depth⟩ data = Node.shownIn resolve length [data] t.nodes := by
    rw [render, Node.render_eq_shownIn, h.shownIn_eq hdepth]
  constructor
  · intro ps t hacyclic data depth depth' hdepth hdepth'
    have hchains := hacyclic.chainsWithin
    rw [hrender hchains hdepth, hrender hchains hdepth']
  · intro resolve t length hchains data depth hdepth text
    rw [hrender hchains hdepth]
    have hshown := hchains.showsAll [data]
    constructor
    · intro htext
      rwa [htext] at hshown
    · intro htext
      exact hshown.unique htext

theorem render_depth_invisible_unreached_cycle :
    ∃ (ps : Partials) (t a b r : Template),
      compile "\x7b\x7b#s\x7d\x7d\x7b\x7b> a\x7d\x7d\x7b\x7b/s\x7d\x7d" = .ok t ∧
      compile "x\x7b\x7b> b\x7d\x7d" = .ok a ∧ compile "\x7b\x7bn\x7d\x7d" = .ok b ∧
      compile "\x7b\x7b> r\x7d\x7d" = .ok r ∧
      ps.bindings.entries = [("a", a), ("b", b), ("r", r)] ∧
      t.Acyclic ps.resolve ∧ Node.ChainsWithin ps.resolve 2 t.nodes ∧
      (∀ data, t.render ps.resolve ⟨3⟩ data = t.render ps.resolve ⟨64⟩ data) ∧
      ∀ data, Node.ShowsAll ps.resolve [data] t.nodes (t.render ps.resolve ⟨2⟩ data) := by
  have ht : Node.ofSource "\x7b\x7b#s\x7d\x7d\x7b\x7b> a\x7d\x7d\x7b\x7b/s\x7d\x7d" =
      .ok [.block "s" false [.inclusion "a"]] := by cbv
  have ha : Node.ofSource "x\x7b\x7b> b\x7d\x7d" = .ok [.text "x", .inclusion "b"] := by cbv
  have hb : Node.ofSource "\x7b\x7bn\x7d\x7d" = .ok [.interpolation "n" true] := by cbv
  have hr : Node.ofSource "\x7b\x7b> r\x7d\x7d" = .ok [.inclusion "r"] := by cbv
  let t : Template := ⟨_, _, ht⟩
  let a : Template := ⟨_, _, ha⟩
  let b : Template := ⟨_, _, hb⟩
  let r : Template := ⟨_, _, hr⟩
  have hkeys : ["a", "b", "r"].Pairwise (· < ·) := by decide
  have hordered : Dictionary.Ordered [("a", a), ("b", b), ("r", r)] := List.pairwise_map.1 hkeys
  let ps : Partials := ⟨⟨_, hordered⟩⟩
  have hreaches : ∀ u, t.Reaches ps.resolve u → u = t ∨ u = a ∨ u = b := by
    intro u hu
    induction hu with
    | refl => exact .inl rfl
    | step _ hname hv ih =>
      rcases ih with rfl | rfl | rfl
      · cases List.mem_singleton.1 hname
        cases hv
        exact .inr (.inl rfl)
      · cases List.mem_singleton.1 hname
        cases hv
        exact .inr (.inr rfl)
      · cases hname
  have hacyclic : t.Acyclic ps.resolve := by
    apply Acyclic.of_rank fun name => if name = "a" then 1 else 0
    rintro name other ⟨⟨w, v, hw, hname, hv⟩, -, u, hu, hother⟩
    rcases hreaches w hw with rfl | rfl | rfl
    · cases List.mem_singleton.1 hname
      cases hu
      cases List.mem_singleton.1 hother
      decide
    · cases List.mem_singleton.1 hname
      cases hu
      cases hother
    · cases hname
  have hchains : Node.ChainsWithin ps.resolve 2 t.nodes := by
    intro names hnames
    cases hnames with
    | nil => exact Nat.zero_le 2
    | cons hname hv hnames =>
      cases List.mem_singleton.1 (mem_inclusionNames hname)
      cases hv
      cases hnames with
      | nil => decide
      | cons hname hv hnames =>
        cases List.mem_singleton.1 (mem_inclusionNames (t := a) hname)
        cases hv
        cases hnames with
        | nil => decide
        | cons hname _ _ => cases mem_inclusionNames (t := b) hname
  refine ⟨ps, t, a, b, r, compile_eq_ok_iff.2 rfl, compile_eq_ok_iff.2 rfl,
    compile_eq_ok_iff.2 rfl, compile_eq_ok_iff.2 rfl, rfl, hacyclic, hchains, ?_, ?_⟩
  · have hsize : ps.size = 3 := rfl
    intro data
    apply render_depth_invisible.1 ps t hacyclic data 3 64
    · rw [hsize]
    · rw [hsize]
      decide
  · intro data
    exact (render_depth_invisible.2 ps.resolve t 2 hchains data 2 (Nat.le_refl 2) _).1 rfl

end Template

end Logicless

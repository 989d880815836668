import Mathlib
import Logicless.Proofs.Render.Congruence
import Logicless.Proofs.Render.Writing
import Logicless.Proofs.Template.Compilation

namespace Logicless

namespace Scope

def AgreeOn (names : String → Prop) (scope other : Scope) : Prop :=
  ∀ name, names name → scope.lookup? name = other.lookup? name

theorem AgreeOn.cons {names : String → Prop} {scope other : Scope} (h : AgreeOn names scope other)
    (frame : Value) : AgreeOn names (frame :: scope) (frame :: other) := by
  intro name hname
  rw [lookup?_cons, lookup?_cons, h name hname]

theorem bisimulation_agreeOn (names : String → Prop) : Bisimulation names (AgreeOn names) where
  lookup := fun h => h
  cons := AgreeOn.cons

end Scope

namespace Template

variable {t u : Template} {resolve : Resolver}

theorem mem_lookupNames {n : Node} {name : String} (hn : n ∈ Node.allPreorder t.nodes)
    (hname : name ∈ n.lookupName?) : name ∈ t.lookupNames :=
  List.mem_filterMap.2 ⟨n, hn, hname⟩

theorem mem_inclusionNames {name : String} (h : .inclusion name ∈ Node.allPreorder t.nodes) :
    name ∈ t.inclusionNames :=
  List.mem_filterMap.2 ⟨.inclusion name, h, rfl⟩

theorem Reaches.exists_mem (hu : t.Reaches resolve u) {n : Node}
    (hn : Node.Reaches resolve u.nodes n) :
    ∃ v, t.Reaches resolve v ∧ n ∈ Node.allPreorder v.nodes := by
  generalize hns : u.nodes = ns at hn
  induction hn generalizing u with
  | here h =>
    subst hns
    exact ⟨u, hu, h⟩
  | @inside ns n name v hname hv _ ih =>
    subst hns
    exact ih (hu.step (mem_inclusionNames hname) hv) rfl

/-- The name is looked up by the template, or by a partial that it comes to include. -/
def LooksUp (t : Template) (resolve : Resolver) (name : String) : Prop :=
  ∃ u, t.Reaches resolve u ∧ name ∈ u.lookupNames

theorem LooksUp.of_reaches {n : Node} {name : String} (hn : Node.Reaches resolve t.nodes n)
    (hname : name ∈ n.lookupName?) : t.LooksUp resolve name := by
  obtain ⟨u, hu, hmem⟩ := Reaches.exists_mem .refl hn
  exact ⟨u, hu, mem_lookupNames hmem hname⟩

/-- A render depends only on the partials and the values whose names stand in the template or in a
partial that it comes to include. -/
theorem render_congr_mentioned (t : Template) (options : RenderOptions) (resolve other : Resolver)
    (data changed : Value)
    (hpartials : ∀ u, t.Reaches resolve u → ∀ name ∈ u.inclusionNames, resolve name = other name)
    (hvalues : ∀ u, t.Reaches resolve u → ∀ name ∈ u.lookupNames,
      data.get? name = changed.get? name) :
    t.render resolve options data = t.render other options changed := by
  have hresolve : ∀ name, Node.Reaches resolve t.nodes (.inclusion name) →
      resolve name = other name := by
    intro name hn
    obtain ⟨u, hu, hmem⟩ := Reaches.exists_mem .refl hn
    exact hpartials u hu name (mem_inclusionNames hmem)
  have hagree : Scope.AgreeOn (t.LooksUp resolve) [data] [changed] := by
    rintro name ⟨u, hu, hname⟩
    rw [Scope.lookup?_cons, Scope.lookup?_cons, hvalues u hu name hname]
  rw [render, render, Node.render_eq_shownIn, Node.render_eq_shownIn]
  exact Node.shownIn_congr (Scope.bisimulation_agreeOn _) _
    (fun _ hn _ hname => .of_reaches hn hname) hresolve hagree

/-- A partial that includes itself is shown in a section, whose elements may hide what is outside; a
key and a partial are added under names that stand in neither text. -/
theorem render_congr_mentioned_cyclic :
    ∃ (resolve other : Resolver) (t included : Template),
      compile "\x7b\x7b#s\x7d\x7d\x7b\x7bn\x7d\x7d\x7b\x7b> p\x7d\x7d\x7b\x7b/s\x7d\x7d" = .ok t ∧
      compile "(\x7b\x7bm\x7d\x7d\x7b\x7b> p\x7d\x7d)" = .ok included ∧
      resolve "p" = some included ∧ resolve "q" = none ∧ other "q" = some t ∧
      ∀ (options : RenderOptions) (data v : Value),
        t.render resolve options data = t.render other options (data.set "x" v) := by
  have ht : Node.ofSource
      "\x7b\x7b#s\x7d\x7d\x7b\x7bn\x7d\x7d\x7b\x7b> p\x7d\x7d\x7b\x7b/s\x7d\x7d" =
      .ok [.block "s" false [.interpolation "n" true, .inclusion "p"]] := by cbv
  have hp : Node.ofSource "(\x7b\x7bm\x7d\x7d\x7b\x7b> p\x7d\x7d)" =
      .ok [.text "(", .interpolation "m" true, .inclusion "p", .text ")"] := by cbv
  let t : Template := ⟨_, _, ht⟩
  let included : Template := ⟨_, _, hp⟩
  let resolve : Resolver := fun name => if name = "p" then some included else none
  let other : Resolver := fun name => if name = "q" then some t else resolve name
  have hreaches : ∀ u, t.Reaches resolve u →
      u.inclusionNames = ["p"] ∧ "x" ∉ u.lookupNames := by
    intro u hu
    cases hu with
    | refl => exact ⟨rfl, (by decide : "x" ∉ ["s", "n"])⟩
    | @step _ _ name _ _ hv =>
      obtain ⟨-, rfl⟩ : name = "p" ∧ included = u := by simpa [resolve] using hv
      exact ⟨rfl, (by decide : "x" ∉ ["m"])⟩
  refine ⟨resolve, other, t, included, compile_eq_ok_iff.2 rfl, compile_eq_ok_iff.2 rfl, rfl, rfl,
    rfl, fun options data v => ?_⟩
  refine render_congr_mentioned t options resolve other data (data.set "x" v) ?_ ?_
  · intro u hu name hname
    rw [(hreaches u hu).1, List.mem_singleton] at hname
    rw [hname]
    rfl
  · intro u hu name hname
    have hne : "x" ≠ name := by
      rintro rfl
      exact (hreaches u hu).2 hname
    exact (Dictionary.find?_insert_of_ne hne v data.entries).symm

end Template

end Logicless

import Logicless.Render.Meaning

namespace Logicless

namespace Rendering

@[simp] theorem write_empty (r : Rendering) : r.write "" = r := by
  simp [write]

@[simp] theorem write_write (r : Rendering) (text more : String) :
    (r.write text).write more = r.write (text ++ more) := by
  simp [write, String.append_assoc]

theorem pop_write_push (r : Rendering) (frame : Value) (text : String) :
    ((r.push frame).write text).pop = r.write text := rfl

theorem foldl_items (children : Rendering → Rendering) (text : Scope → String)
    (h : ∀ r, children r = r.write (text r.scope)) (items : List Value) (r : Rendering) :
    items.foldl (fun r item => (children (r.push item)).pop) r =
      r.write (String.join (items.map fun item => text (item :: r.scope))) := by
  induction items generalizing r with
  | nil => exact (write_empty r).symm
  | cons item items ih =>
    rw [List.foldl_cons, h, pop_write_push, ih, write_write, List.map_cons, String.join_cons]
    rfl

theorem writeSection_eq (children : Rendering → Rendering) (text : Scope → String)
    (h : ∀ r, children r = r.write (text r.scope)) (r : Rendering) (v : Value) :
    r.writeSection v children =
      r.write (String.join ((v.sectionScopes r.scope).map text)) := by
  cases v with
  | sequence items =>
    rw [Value.sectionScopes, List.map_map]
    exact foldl_items children text h items r
  | mapping entries =>
    simp only [writeSection, Value.sectionScopes, h, pop_write_push]
    simp [push]
  | null | bool _ | number _ | string _ => simp [writeSection, Value.sectionScopes, h]

end Rendering

namespace Node

variable (resolve : Resolver) (options : RenderOptions)

mutual

theorem write_eq_showWith {depth : Nat} {inclusion : String → Scope → String}
    (h : ∀ name r, write resolve options depth r (.inclusion name) =
      r.write (inclusion name r.scope)) :
    ∀ (n : Node) (r : Rendering),
      write resolve options depth r n = r.write (showWith inclusion r.scope n)
  | .text content, r => by
    rw [write, showWith]
  | .interpolation name escaped, r => by
    rw [write, showWith]
    cases r.scope.lookup? name with
    | none => exact (r.write_empty).symm
    | some v => rfl
  | .block name inverted children, r => by
    have hchildren := writeAll_eq_showAllWith h children
    rw [showWith]
    cases htruthy : r.scope.truthy? name with
    | none => cases inverted <;> simp [write, Scope.ofSection, htruthy, hchildren]
    | some v =>
      cases inverted with
      | true => simp [write, Scope.ofSection, htruthy]
      | false =>
        rw [write.eq_def]
        simp only [Scope.ofSection, htruthy]
        exact Rendering.writeSection_eq _ (showAllWith inclusion · children) hchildren r v
  | .inclusion name, r => by
    rw [h, showWith]

theorem writeAll_eq_showAllWith {depth : Nat} {inclusion : String → Scope → String}
    (h : ∀ name r, write resolve options depth r (.inclusion name) =
      r.write (inclusion name r.scope)) :
    ∀ (ns : List Node) (r : Rendering),
      writeAll resolve options depth r ns = r.write (showAllWith inclusion r.scope ns)
  | [], r => by
    rw [writeAll, showAllWith, r.write_empty]
  | n :: ns, r => by
    rw [writeAll, write_eq_showWith h n r, writeAll_eq_showAllWith h ns, showAllWith,
      r.write_write]
    rfl

end

/-- Writing nodes adds the text that they show to the end of the output and does nothing else. -/
theorem writeAll_eq_shownIn (depth : Nat) (ns : List Node) (r : Rendering) :
    writeAll resolve options depth r ns =
      r.write (shownIn resolve (options.maxPartialDepth - depth) r.scope ns) := by
  -- The induction is on the room for partials: only they take some of it, sections take none.
  induction hroom : options.maxPartialDepth - depth generalizing depth ns r with
  | zero =>
    refine writeAll_eq_showAllWith resolve options (fun name r => ?_) ns r
    rw [write, if_pos (Nat.le_of_sub_eq_zero hroom), r.write_empty]
  | succ room ih =>
    refine writeAll_eq_showAllWith resolve options (fun name r => ?_) ns r
    rw [write, if_neg (by omega)]
    cases resolve name with
    | none => exact (r.write_empty).symm
    | some template => exact ih (depth + 1) template.nodes r (by omega)

theorem render_eq_shownIn (data : Value) (ns : List Node) :
    render resolve options data ns = shownIn resolve options.maxPartialDepth [data] ns := by
  rw [render, writeAll_eq_shownIn, Rendering.write, String.empty_append]
  rfl

end Node

end Logicless

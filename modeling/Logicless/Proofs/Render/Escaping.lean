import Mathlib
import Logicless.Proofs.Html.Entity
import Logicless.Proofs.Render.Writing
import Logicless.Proofs.Template.Compilation
import Logicless.Proofs.Template.Unescaped
import Logicless.Render.Reference

namespace Logicless

def Resolver.unescaped (resolve : Resolver) : Resolver :=
  fun name => (resolve name).map Template.unescaped

/-- A relation between a run and one without escaping that can be told from the parts of their
texts. -/
structure Compositional (related : String → String → Prop) : Prop where
  empty : related "" ""
  append {a b c d : String} (hac : related a c) (hbd : related b d) : related (a ++ b) (c ++ d)
  shown (v : Value) : related (v.shown true) (v.shown false)

namespace Node

def Fits (related : String → String → Prop) : Node → Prop
  | text content => related content content
  | interpolation _ escaped => escaped = true
  | _ => True

end Node

namespace Compositional

variable {related : String → String → Prop} (h : Compositional related)
include h

theorem join {α : Type} {f g : α → String} {xs : List α} (hfg : ∀ x ∈ xs, related (f x) (g x)) :
    related (String.join (xs.map f)) (String.join (xs.map g)) := by
  induction xs with
  | nil => exact h.empty
  | cons x xs ih =>
    obtain ⟨hx, hxs⟩ := List.forall_mem_cons.1 hfg
    rw [List.map_cons, List.map_cons, String.join_cons, String.join_cons]
    exact h.append hx (ih hxs)

variable {f g : String → Scope → String}

mutual

theorem showWith : ∀ {n : Node}, (∀ m ∈ n.preorder, m.Fits related) →
    (∀ name, .inclusion name ∈ n.preorder → ∀ scope, related (f name scope) (g name scope)) →
      ∀ scope, related (n.showWith f scope) (n.unescaped.showWith g scope)
  | .text _, hfits, _, _ => hfits _ (List.mem_singleton.2 rfl)
  | .interpolation name escaped, hfits, _, scope => by
    obtain rfl : escaped = true := hfits _ (List.mem_singleton.2 rfl)
    rw [Node.showWith, Node.unescaped, Node.showWith]
    cases scope.lookup? name with
    | none => exact h.empty
    | some v => exact h.shown v
  | .inclusion name, _, hfg, scope => hfg name (List.mem_singleton.2 rfl) scope
  | .block name inverted children, hfits, hfg, scope => by
    refine h.join fun inner _ => ?_
    exact showAllWith (fun m hm => hfits m (List.mem_cons_of_mem _ hm))
      (fun name hname => hfg name (List.mem_cons_of_mem _ hname)) inner

theorem showAllWith : ∀ {ns : List Node}, (∀ m ∈ Node.allPreorder ns, m.Fits related) →
    (∀ name, .inclusion name ∈ Node.allPreorder ns →
      ∀ scope, related (f name scope) (g name scope)) →
      ∀ scope, related (Node.showAllWith f scope ns)
        (Node.showAllWith g scope (Node.allUnescaped ns))
  | [], _, _, _ => h.empty
  | n :: ns, hfits, hfg, scope => by
    rw [Node.showAllWith, Node.allUnescaped, Node.showAllWith]
    apply h.append
    · exact showWith (fun m hm => hfits m (List.mem_append_left _ hm))
        (fun name hname => hfg name (List.mem_append_left _ hname)) scope
    · exact showAllWith (fun m hm => hfits m (List.mem_append_right _ hm))
        (fun name hname => hfg name (List.mem_append_right _ hname)) scope

end

theorem shownIn {resolve : Resolver} (depth : Nat) {ns : List Node}
    (hfits : ∀ n, Node.Reaches resolve ns n → n.Fits related) (scope : Scope) :
    related (Node.shownIn resolve depth scope ns)
      (Node.shownIn resolve.unescaped depth scope (Node.allUnescaped ns)) := by
  have hnodes : ∀ n ∈ Node.allPreorder ns, n.Fits related := fun n hn => hfits n (.here hn)
  induction depth generalizing ns scope with
  | zero => exact h.showAllWith hnodes (fun _ _ _ => h.empty) scope
  | succ depth ih =>
    refine h.showAllWith hnodes (fun name hname scope => ?_) scope
    cases ht : resolve name with
    | none =>
      simp only [Resolver.unescaped, ht]
      exact h.empty
    | some t =>
      simp only [Resolver.unescaped, ht]
      have hinside : ∀ n, Node.Reaches resolve t.nodes n → n.Fits related :=
        fun n hn => hfits n (.inside hname ht hn)
      exact ih hinside scope fun n hn => hinside n (.here hn)

theorem render {t : Template} {resolve : Resolver}
    (hfits : ∀ n, Node.Reaches resolve t.nodes n → n.Fits related) (options : RenderOptions)
    (data : Value) :
    related (t.render resolve options data)
      (t.unescaped.render resolve.unescaped options data) := by
  rw [Template.render, Template.render, Node.render_eq_shownIn, Node.render_eq_shownIn]
  exact h.shownIn _ hfits _

end Compositional

theorem compositional_not_mem {x : Char} (hx : x ∈ ['<', '>', '"']) :
    Compositional fun a _ => x ∉ a.toList where
  empty := List.not_mem_nil
  append := by
    intro a b c d ha hb
    rw [String.toList_append, List.mem_append, not_or]
    exact ⟨ha, hb⟩
  shown v := by
    have h := Html.not_mem_encode hx v.output.toList
    simpa [Value.shown, Html.escape] using h

theorem compositional_ampersands :
    Compositional fun a _ => Html.AmpersandsBeginEntities a.toList where
  empty := .of_not_mem List.not_mem_nil
  append := by
    intro a b c d ha hb
    rw [String.toList_append]
    exact ha.append hb
  shown v := by
    have h := Html.AmpersandsBeginEntities.encode v.output.toList
    simpa [Value.shown, Html.escape] using h

theorem compositional_decode :
    Compositional fun a b =>
      ∀ rest, Html.decode (a.toList ++ rest) = b.toList ++ Html.decode rest where
  empty := fun _ => rfl
  append := by
    intro a b c d ha hb rest
    rw [String.toList_append, String.toList_append, List.append_assoc, ha, hb, List.append_assoc]
  shown v := by
    intro rest
    have h := Html.decode_encode_append v.output.toList rest
    simpa [Value.shown, Html.escape] using h

namespace Node

theorem fits_of_reaches {related : String → String → Prop} {resolve : Resolver} {ns : List Node}
    (hescaped : ∀ name, ¬ Reaches resolve ns (.interpolation name false))
    (htext : ∀ content, Reaches resolve ns (.text content) → related content content) :
    ∀ n, Reaches resolve ns n → n.Fits related
  | .text content, hn => htext content hn
  | .interpolation _ true, _ => rfl
  | .interpolation name false, hn => (hescaped name hn).elim
  | .inclusion _, _ => trivial
  | .block _ _ _, _ => trivial

end Node

namespace Template

/-- Where all values are escaped, a character of markup in the output is one of the template, and
without ampersands in the template the output is decoded to what is shown without escaping. -/
theorem render_escaped (t : Template) (resolve : Resolver)
    (hescaped : ∀ name, ¬ Node.Reaches resolve t.nodes (.interpolation name false))
    (options : RenderOptions) (data : Value) :
    (∀ x ∈ ['<', '>', '"'],
      (∀ content, Node.Reaches resolve t.nodes (.text content) → x ∉ content.toList) →
        x ∉ (t.render resolve options data).toList) ∧
      ((∀ content, Node.Reaches resolve t.nodes (.text content) → '&' ∉ content.toList) →
        Html.AmpersandsBeginEntities (t.render resolve options data).toList ∧
        Html.decode (t.render resolve options data).toList =
          (t.unescaped.render resolve.unescaped options data).toList) := by
  refine ⟨fun x hx htext => ?_, fun htext => ⟨?_, ?_⟩⟩
  · exact (compositional_not_mem hx).render (Node.fits_of_reaches hescaped htext) options data
  · refine compositional_ampersands.render (Node.fits_of_reaches hescaped ?_) options data
    exact fun content hcontent => .of_not_mem (htext content hcontent)
  · have h := compositional_decode.render (Node.fits_of_reaches hescaped fun content hcontent =>
      Html.decode_append (htext content hcontent)) options data []
    rwa [List.append_nil, Html.decode, List.append_nil] at h

theorem render_escaped_partial_in_section :
    ∃ (resolve : Resolver) (t included : Template),
      compile "\x7b\x7b#s\x7d\x7d\x7b\x7bn\x7d\x7d; \x7b\x7b> p\x7d\x7d\x7b\x7b/s\x7d\x7d" = .ok t ∧
      compile "(\x7b\x7bm\x7d\x7d)" = .ok included ∧ resolve "p" = some included ∧ ∀ data,
        '<' ∉ (t.render resolve .default data).toList ∧
        Html.AmpersandsBeginEntities (t.render resolve .default data).toList ∧
        Html.decode (t.render resolve .default data).toList =
          (t.unescaped.render resolve.unescaped .default data).toList := by
  have ht : Node.ofSource
        "\x7b\x7b#s\x7d\x7d\x7b\x7bn\x7d\x7d; \x7b\x7b> p\x7d\x7d\x7b\x7b/s\x7d\x7d" =
      .ok [.block "s" false [.interpolation "n" true, .text "; ", .inclusion "p"]] := by cbv
  have hp : Node.ofSource "(\x7b\x7bm\x7d\x7d)" =
      .ok [.text "(", .interpolation "m" true, .text ")"] := by cbv
  let resolve : Resolver := fun name => if name = "p" then some ⟨_, _, hp⟩ else none
  have hreaches : ∀ n, Node.Reaches resolve
      [.block "s" false [.interpolation "n" true, .text "; ", .inclusion "p"]] n →
        (∀ name, n ≠ .interpolation name false) ∧
          ∀ content, n = .text content → content ∈ ["; ", "(", ")"] := by
    intro n hn
    cases hn with
    | here h =>
      simp only [Node.allPreorder, Node.preorder, List.append_nil, List.singleton_append,
        List.mem_cons, List.not_mem_nil, or_false] at h
      rcases h with rfl | rfl | rfl | rfl <;> simp
    | inside h hname hn =>
      simp [Node.allPreorder, Node.preorder] at h
      subst h
      cases hname
      cases hn with
      | here h =>
        simp only [Node.allPreorder, Node.preorder, List.append_nil, List.singleton_append,
          List.mem_cons, List.not_mem_nil, or_false] at h
        rcases h with rfl | rfl | rfl <;> simp
      | inside h => simp [Node.allPreorder, Node.preorder] at h
  have hescaped (name : String) (h : Node.Reaches resolve _ (.interpolation name false)) : False :=
    (hreaches _ h).1 name rfl
  have htext {x : Char} (hx : ∀ content ∈ ["; ", "(", ")"], x ∉ content.toList) (content : String)
      (h : Node.Reaches resolve _ (.text content)) : x ∉ content.toList :=
    hx content ((hreaches _ h).2 content rfl)
  refine ⟨resolve, ⟨_, _, ht⟩, ⟨_, _, hp⟩, compile_eq_ok_iff.2 rfl, compile_eq_ok_iff.2 rfl,
    if_pos rfl, fun data => ?_⟩
  obtain ⟨hmarkup, hdecode⟩ := render_escaped ⟨_, _, ht⟩ resolve hescaped .default data
  exact ⟨hmarkup '<' (by decide) (htext (by decide)), hdecode (htext (by decide))⟩

end Template

end Logicless

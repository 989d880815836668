import Mathlib
import Logicless.Proofs.Render.Alike
import Logicless.Proofs.Template.Compilation
import Logicless.Proofs.Template.Framing
import Logicless.Proofs.Template.Seam

namespace Logicless

open Text

namespace Node

variable {related : List Node → List Node → Prop} (hrelated : Congruence related)
include hrelated

theorem ofTokens_join_shift {tokens : List Token} {nodes : List Node}
    (h : ofTokens tokens = .ok nodes) (bytes : Nat) (others : List Token) :
    SameOutcome (fun e e' => e' = e.shift bytes) (fun ns ms => related (nodes ++ ns) ms)
      (ofTokens others) (ofTokens (Token.join tokens (others.map (Token.shift bytes)))) := by
  let later (o o' : Nat) : Prop := o' = o + bytes
  have hshift : SameOutcome (NestingError.Moved later) related
      (ofTokens others) (ofTokens (others.map (Token.shift bytes))) := by
    have hmoved := Token.moved_shift later 0 bytes (fun _ => rfl) others
    have hempty : Draft.empty.Alike later related .empty := ⟨.nil, hrelated.refl []⟩
    rw [Token.map_shift_zero] at hmoved
    rw [ofTokens_eq, ofTokens_eq]
    exact hempty.complete hrelated hmoved
  have hjoin := Draft.complete_join hrelated .empty tokens (others.map (Token.shift bytes))
  rw [← ofTokens_eq, ← ofTokens_eq, ofTokens_append h] at hjoin
  have hbehind := hshift.map_right (f := (nodes ++ ·)) (hrelated.append (hrelated.refl nodes))
  refine hbehind.trans hjoin (fun {e f g} he hf => ?_) hrelated.trans
  have hlater := he.trans hf fun {a b c} (h : later a b) (h' : b = c) => h' ▸ h
  obtain ⟨fault, name, offset⟩ := g
  rw [NestingError.shift, hlater.fault, hlater.name]
  exact congrArg _ hlater.offset

theorem ofSource_append {a b : String} {nodes : List Node} (h : ofSource a = .ok nodes)
    (hmeet : ¬ BracesMeet a.toList b.toList) :
    SameOutcome (fun e e' => e' = e.shift a.utf8ByteSize)
      (fun ns ms => related (nodes ++ ns) ms) (ofSource b) (ofSource (a ++ b)) := by
  obtain ⟨tokens, htokens, hnodes⟩ := ofSource_eq_ok_iff.1 h
  have happend := tokenize_append htokens hmeet
  cases hb : tokenize b with
  | error e =>
    rw [hb] at happend
    rw [ofSource_of_scanError hb, ofSource_of_scanError happend]
    exact .error rfl
  | ok others =>
    rw [hb] at happend
    rw [ofSource_of_tokens hb, ofSource_of_tokens happend]
    exact (ofTokens_join_shift hrelated hnodes _ others).mapError (congrArg CompileError.nesting)

end Node

namespace Template

/-- Behind a template, a text has the errors that it has alone, later by the bytes of the template,
and it shows what it shows alone behind what the template shows. -/
theorem compile_append (a b : String) (t : Template) (ha : compile a = .ok t)
    (hmeet : ¬ BracesMeet a.toList b.toList) :
    ((∃ v, compile (a ++ b) = .ok v) ↔ ∃ u, compile b = .ok u) ∧
      (∀ e, compile b = .error e → compile (a ++ b) = .error (e.shift a.utf8ByteSize)) ∧
      ∀ u v, compile b = .ok u → compile (a ++ b) = .ok v →
        ∀ (resolve : Resolver) (options : RenderOptions) (data : Value),
          v.render resolve options data =
            t.render resolve options data ++ u.render resolve options data := by
  have houtcome {related : List Node → List Node → Prop} (h : Node.Congruence related) :=
    Node.ofSource_append h (ofSource_of_compile ha) hmeet
  refine ⟨?_, fun e he => ?_, fun u v hu hv resolve options data => ?_⟩
  · rw [exists_compile_eq_ok_iff, exists_compile_eq_ok_iff]
    exact (houtcome .top).exists_ok_iff.symm
  · have h := houtcome .top
    rw [compile_eq_error_iff] at he ⊢
    rw [he] at h
    generalize Node.ofSource (a ++ b) = outcome at h
    cases h with
    | error h => rw [h]
  · have h := houtcome (Node.Alike.congruence (Node.partialText resolve options.maxPartialDepth))
    rw [ofSource_of_compile hu, ofSource_of_compile hv] at h
    cases h with
    | ok h =>
      rw [render, render, render, Node.render_eq_showAllWith, ← h, Node.showAllWith_append,
        ← Node.render_eq_showAllWith, ← Node.render_eq_showAllWith]

theorem compile_append_brace_at_seam :
    (∃ t u v, compile "\x7b\x7bm\x7d\x7d\x7b" = .ok t ∧ compile "é\x7b\x7bm\x7d\x7d" = .ok u ∧
      compile ("\x7b\x7bm\x7d\x7d\x7b" ++ "é\x7b\x7bm\x7d\x7d") = .ok v ∧
      ∀ data, v.render .none .default data =
        t.render .none .default data ++ u.render .none .default data) ∧
      compile ("\x7b\x7bm\x7d\x7d\x7b" ++ "é\x7b\x7b/m\x7d\x7d") =
        .error (.nesting ⟨.unbalanced, "m", 8⟩) := by
  have ha : Node.ofSource "\x7b\x7bm\x7d\x7d\x7b" =
      .ok [.interpolation "m" true, .text "\x7b"] := by cbv
  have hb : Node.ofSource "é\x7b\x7bm\x7d\x7d" = .ok [.text "é", .interpolation "m" true] := by cbv
  have hbad : Node.ofSource "é\x7b\x7b/m\x7d\x7d" = .error (.nesting ⟨.unbalanced, "m", 2⟩) := by
    cbv
  have happend (b : String) (hmeet : ¬ BracesMeet "\x7b\x7bm\x7d\x7d\x7b".toList b.toList) :=
    compile_append _ b ⟨_, _, ha⟩ (compile_eq_ok_iff.2 rfl) hmeet
  constructor
  · obtain ⟨hok, -, hrender⟩ := happend "é\x7b\x7bm\x7d\x7d" (by decide)
    obtain ⟨v, hv⟩ := hok.2 ⟨⟨_, _, hb⟩, compile_eq_ok_iff.2 rfl⟩
    exact ⟨⟨_, _, ha⟩, ⟨_, _, hb⟩, v, compile_eq_ok_iff.2 rfl, compile_eq_ok_iff.2 rfl, hv,
      hrender _ v (compile_eq_ok_iff.2 rfl) hv .none .default⟩
  · exact (happend "é\x7b\x7b/m\x7d\x7d" (by decide)).2.1 _ (compile_eq_error_iff.2 hbad)

end Template

end Logicless

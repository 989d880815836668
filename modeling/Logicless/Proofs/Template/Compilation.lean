import Logicless.Proofs.Except
import Logicless.Template

namespace Logicless

namespace Node

theorem ofSource_of_tokens {source : String} {tokens : List Token}
    (h : tokenize source = .ok tokens) :
    ofSource source = (ofTokens tokens).mapError .nesting := by
  rw [ofSource, h]
  dsimp only
  cases ofTokens tokens <;> rfl

theorem ofSource_of_scanError {source : String} {e : ScanError} (h : tokenize source = .error e) :
    ofSource source = .error (.scan e) := by
  rw [ofSource, h]

theorem ofSource_eq_ok_iff {source : String} {nodes : List Node} :
    ofSource source = .ok nodes ↔
      ∃ tokens, tokenize source = .ok tokens ∧ ofTokens tokens = .ok nodes := by
  cases h : tokenize source with
  | error e => simp [ofSource_of_scanError h]
  | ok tokens =>
    rw [ofSource_of_tokens h, mapError_eq_ok_iff]
    simp

end Node

namespace Template

theorem compile_eq_ok_iff {source : String} {t : Template} :
    compile source = .ok t ↔ t.source = source := by
  obtain ⟨source', nodes, hnodes⟩ := t
  constructor
  · intro h
    unfold compile at h
    split at h
    · cases h
    · cases h
      rfl
  · rintro rfl
    unfold compile
    split
    · next herror => cases hnodes.symm.trans herror
    · next hok => cases hnodes.symm.trans hok; rfl

theorem exists_compile_eq_ok_iff {source : String} :
    (∃ t, compile source = .ok t) ↔ ∃ nodes, Node.ofSource source = .ok nodes := by
  constructor
  · rintro ⟨t, h⟩
    obtain rfl := compile_eq_ok_iff.1 h
    exact ⟨t.nodes, t.ofSource_eq⟩
  · rintro ⟨nodes, h⟩
    exact ⟨⟨source, nodes, h⟩, compile_eq_ok_iff.2 rfl⟩

theorem compile_eq_error_iff {source : String} {e : CompileError} :
    compile source = .error e ↔ Node.ofSource source = .error e := by
  unfold compile
  split
  · next h => rw [h, Except.error.injEq, Except.error.injEq]
  · next h => simp [h]

theorem ofSource_of_compile {source : String} {t : Template} (h : compile source = .ok t) :
    Node.ofSource source = .ok t.nodes := by
  obtain rfl := compile_eq_ok_iff.1 h
  exact t.ofSource_eq

end Template

end Logicless

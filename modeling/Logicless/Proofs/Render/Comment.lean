import Mathlib
import Logicless.Proofs.Render.Alike
import Logicless.Proofs.Template.Compilation
import Logicless.Proofs.Template.Seam
import Logicless.Proofs.Template.Tokenization

namespace Logicless

open Text

def commentTag (content : String) : String :=
  "\x7b\x7b!" ++ content ++ "\x7d\x7d"

theorem not_bracesMeet_commentTag (content b : String) :
    ¬ BracesMeet (commentTag content).toList b.toList := by
  intro h
  have hlast := h.1
  simp [commentTag, List.getLast?_cons, List.getLast?_append] at hlast

theorem tokenize_comment {content : String} (h : ¬ closeMark <:+: content.toList ++ ['}']) :
    ∃ name span, tokenize (commentTag content) = .ok [.tag .comment name span] := by
  let body : TagBody := ⟨false, '!' :: content.toList⟩
  have hclose : ¬ closeMark <:+: '!' :: (content.toList ++ ['}']) := by
    intro hinfix
    rcases List.infix_cons_iff.1 hinfix with hprefix | hinfix
    · simp [closeMark] at hprefix
    · exact h hinfix
  have hbody : body.WellFormed := ⟨by simp [body], occurs_eq_false_iff.2 hclose⟩
  have hsource : (commentTag content).toList = body.source := by
    simp [commentTag, TagBody.source, body, openMark, closeMark]
  have hclassify : body.classify = (.comment, trim content.toList) := by
    apply Reading.classify_eq
    exact @Reading.sigil [] content.toList '!' .comment (by simp) rfl
  rw [tokenize_tag hbody hsource, TagBody.token, hclassify]
  exact ⟨_, _, rfl⟩

theorem start_lt_of_tokenize {source : String} {tokens : List Token}
    (h : tokenize source = .ok tokens) {kind : TagKind} {name : String} {span : Span}
    (hmem : .tag kind name span ∈ tokens) : span.start < source.utf8ByteSize := by
  obtain ⟨ps, -, hsource, rfl⟩ := Piece.exists_tiling_of_scan h
  have hlt := Piece.start_lt_of_mem_tokens hmem
  rwa [hsource, byteLength_toList, Nat.zero_add] at hlt

theorem Draft.complete_comment (d : Draft) (tokens others : List Token) (name : String)
    (span : Span) :
    d.complete (tokens ++ .tag .comment name span :: others) = d.complete (tokens ++ others) := by
  rw [complete_append, complete_append]
  rfl

namespace Node

variable {related : List Node → List Node → Prop} (hrelated : Congruence related)
include hrelated

/-- Where a comment stands between tokens, the ones before it stay in their place and the others are
moved, but they make up related nodes or the same error in its new place. -/
theorem ofTokens_comment {tokens : List Token} {place : Nat}
    (htokens : ∀ kind name span, .tag kind name span ∈ tokens → span.start < place)
    (bytes : Nat) (others : List Token) (name : String) (span : Span) :
    SameOutcome (fun e e' => e = e'.makeRoom place bytes) related
      (ofTokens (tokens ++ .tag .comment name span :: others.map (Token.shift (bytes + place))))
      (ofTokens (Token.join tokens (others.map (Token.shift place)))) := by
  let earlier (o o' : Nat) : Prop := o = makeRoom place bytes o'
  have hbefore : List.Forall₂ (Token.Moved earlier) tokens tokens := by
    apply Token.moved_self
    intro kind name span hmem
    exact (makeRoom_of_lt (htokens kind name span hmem) bytes).symm
  have hbehind : List.Forall₂ (Token.Moved earlier) (others.map (Token.shift (bytes + place)))
      (others.map (Token.shift place)) := by
    apply Token.moved_shift
    intro offset
    exact (makeRoom_add place bytes offset).symm
  have hempty : Draft.empty.Alike earlier related .empty := ⟨.nil, hrelated.refl []⟩
  have hmoved := hempty.complete hrelated (List.rel_append hbefore hbehind)
  have hjoin := Draft.complete_join hrelated .empty tokens (others.map (Token.shift place))
  rw [ofTokens_eq, ofTokens_eq, Draft.complete_comment]
  apply hmoved.trans hjoin
  · intro e f g he hf
    have hearlier := he.trans hf fun {a b c} (h : earlier a b) (h' : b = c) => h' ▸ h
    obtain ⟨fault, name, offset⟩ := e
    rw [NestingError.makeRoom, ← hearlier.fault, ← hearlier.name]
    exact congrArg _ hearlier.offset
  · intro ns ms ks h h'
    exact hrelated.trans h h'

theorem ofSource_comment {a : String} {tokens : List Token} (ha : tokenize a = .ok tokens)
    (hlast : a.toList.getLast? ≠ some '{') {content : String}
    (hcontent : ¬ closeMark <:+: content.toList ++ ['}']) (b : String) :
    SameOutcome
      (fun e e' => e = e'.makeRoom a.utf8ByteSize (commentTag content).utf8ByteSize) related
      (ofSource (a ++ (commentTag content ++ b))) (ofSource (a ++ b)) := by
  obtain ⟨name, span, htag⟩ := tokenize_comment hcontent
  have hwith := tokenize_splice ha hlast htag (not_bracesMeet_commentTag content b)
  have hwithout := tokenize_append (b := b) ha fun h => hlast h.1
  cases hb : tokenize b with
  | error e =>
    rw [hb] at hwith hwithout
    rw [ofSource_of_scanError hwith, ofSource_of_scanError hwithout]
    apply SameOutcome.error
    rw [CompileError.makeRoom, ScanError.makeRoom_shift]
  | ok others =>
    rw [hb] at hwith hwithout
    rw [ofSource_of_tokens hwith, ofSource_of_tokens hwithout]
    beta_reduce
    rw [Token.join_tag_cons, Token.join_nil, List.map_cons, Token.map_shift_shift, Token.shift,
      Token.join_append_tag]
    have hbefore : ∀ kind name span, .tag kind name span ∈ tokens → span.start < a.utf8ByteSize :=
      fun _ _ _ hmem => start_lt_of_tokenize ha hmem
    apply (ofTokens_comment hrelated hbefore _ others name _).mapError
    intro e e' he
    rw [he]
    rfl

end Node

namespace Template

/-- A comment may be put between any two texts, the first of which has tokens, whatever sections are
open there. -/
theorem compile_comment (a b c : String) (tokens : List Token) (ha : tokenize a = .ok tokens)
    (hlast : a.toList.getLast? ≠ some '{') (hc : ¬ closeMark <:+: c.toList ++ ['}']) :
    ((∃ t, compile (a ++ commentTag c ++ b) = .ok t) ↔ ∃ u, compile (a ++ b) = .ok u) ∧
      (∀ t u, compile (a ++ commentTag c ++ b) = .ok t → compile (a ++ b) = .ok u →
        ∀ (resolve : Resolver) (options : RenderOptions) (data : Value),
          t.render resolve options data = u.render resolve options data) ∧
      ∀ e, compile (a ++ b) = .error e → compile (a ++ commentTag c ++ b) =
        .error (e.makeRoom a.utf8ByteSize (commentTag c).utf8ByteSize) := by
  rw [String.append_assoc]
  have houtcome {related : List Node → List Node → Prop} (h : Node.Congruence related) :=
    Node.ofSource_comment h ha hlast hc b
  refine ⟨?_, ?_, ?_⟩
  · rw [exists_compile_eq_ok_iff, exists_compile_eq_ok_iff]
    exact (houtcome .top).exists_ok_iff
  · intro t u ht hu resolve options data
    have h := houtcome (Node.Alike.congruence (Node.partialText resolve options.maxPartialDepth))
    rw [ofSource_of_compile ht, ofSource_of_compile hu] at h
    cases h with
    | ok h => rw [render, render, Node.render_eq_showAllWith, h, ← Node.render_eq_showAllWith]
  · intro e he
    have h := houtcome .top
    rw [compile_eq_error_iff] at he ⊢
    rw [he] at h
    generalize Node.ofSource (a ++ (commentTag c ++ b)) = outcome at h
    cases h with
    | error h => rw [h]

theorem compile_comment_within_section :
    (∃ t u, compile ("é\x7b\x7b#s\x7d\x7dx" ++ commentTag "# \x7b\x7b \x7d\n" ++
        "y\x7b\x7b/s\x7d\x7d") = .ok t ∧
      compile ("é\x7b\x7b#s\x7d\x7dx" ++ "y\x7b\x7b/s\x7d\x7d") = .ok u ∧
      ∀ data, t.render .none .default data = u.render .none .default data) ∧
      compile ("é\x7b\x7b#s\x7d\x7dx" ++ commentTag "# \x7b\x7b \x7d\n" ++ "y") =
        .error (.nesting ⟨.unclosed, "s", 2⟩) ∧
      compile ("é\x7b\x7b#s\x7d\x7dx" ++ commentTag "# \x7b\x7b \x7d\n" ++
        "y\x7b\x7b/s\x7d\x7d\x7b\x7b/r\x7d\x7d") = .error (.nesting ⟨.unbalanced, "r", 28⟩) := by
  have ha : tokenize "é\x7b\x7b#s\x7d\x7dx" =
      .ok [.text "é", .tag .sectionOpen "s" ⟨2, 8⟩, .text "x"] := by cbv
  have hcomment (b : String) := compile_comment "é\x7b\x7b#s\x7d\x7dx" b "# \x7b\x7b \x7d\n" _ ha
    (by decide) (by decide)
  refine ⟨?_, ?_, ?_⟩
  · have hnodes : Node.ofSource ("é\x7b\x7b#s\x7d\x7dx" ++ "y\x7b\x7b/s\x7d\x7d") =
        .ok [.text "é", .block "s" false [.text "xy"]] := by cbv
    obtain ⟨hok, hrender, -⟩ := hcomment "y\x7b\x7b/s\x7d\x7d"
    obtain ⟨t, ht⟩ := hok.2 ⟨⟨_, _, hnodes⟩, compile_eq_ok_iff.2 rfl⟩
    exact ⟨t, ⟨_, _, hnodes⟩, ht, compile_eq_ok_iff.2 rfl,
      hrender t _ ht (compile_eq_ok_iff.2 rfl) .none .default⟩
  · have herror : Node.ofSource ("é\x7b\x7b#s\x7d\x7dx" ++ "y") =
        .error (.nesting ⟨.unclosed, "s", 2⟩) := by cbv
    exact (hcomment "y").2.2 _ (compile_eq_error_iff.2 herror)
  · have herror :
        Node.ofSource ("é\x7b\x7b#s\x7d\x7dx" ++ "y\x7b\x7b/s\x7d\x7d\x7b\x7b/r\x7d\x7d") =
        .error (.nesting ⟨.unbalanced, "r", 16⟩) := by cbv
    exact (hcomment "y\x7b\x7b/s\x7d\x7d\x7b\x7b/r\x7d\x7d").2.2 _ (compile_eq_error_iff.2 herror)

end Template

end Logicless

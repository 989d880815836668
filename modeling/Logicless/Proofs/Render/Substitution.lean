import Mathlib
import Logicless.Proofs.Render.Alike
import Logicless.Proofs.Render.Chains
import Logicless.Proofs.Template.Compilation
import Logicless.Proofs.Template.Framing
import Logicless.Proofs.Template.Printing
import Logicless.Proofs.Template.Seam
import Logicless.Render.Reference

namespace Logicless

open Text

def inclusionTag (name : String) : String :=
  "\x7b\x7b> " ++ name ++ " \x7d\x7d"

theorem not_bracesMeet_inclusionTag (name b : String) :
    ¬ BracesMeet (inclusionTag name).toList b.toList := by
  rintro ⟨h, -⟩
  simp [inclusionTag, List.getLast?_cons, List.getLast?_append] at h

theorem tokenize_inclusion {name : String} (h : Node.IsName closeMark name) :
    ∃ span, tokenize (inclusionTag name) = .ok [.tag .inclusion name span] := by
  have hprintable : Lexeme.Printable true (.tag .inclusion name) := h
  have hsource : (inclusionTag name).toList = (TagBody.printed .inclusion name).source := by
    simp [inclusionTag, Node.source_printed, Node.printTag, TagKind.printedSigil, openMark,
      closeMark]
  rw [tokenize_tag (TagBody.wellFormed_printed hprintable) hsource, TagBody.token,
    TagBody.classify_printed hprintable, String.ofList_toList]
  exact ⟨_, rfl⟩

namespace Node

variable {related : List Node → List Node → Prop} (hrelated : Congruence related)
include hrelated

theorem complete_substitute {node : Node} {token : Token} (htoken : token.effect = .add node)
    {inner : List Token} {nodes : List Node} (hinner : ofTokens inner = .ok nodes)
    (hnodes : related [node] nodes) (d : Draft) (others : List Token) (k l m : Nat) :
    SameOutcome (fun _ _ => True) related
      (d.complete (token :: others.map (Token.shift k)))
      (d.complete ((Token.join inner (others.map (Token.shift l))).map (Token.shift m))) := by
  let anywhere : Nat → Nat → Prop := fun _ _ => True
  have hd : d.Alike anywhere related d := .refl hrelated (fun _ => trivial) d
  have hleft : d.complete (token :: others.map (Token.shift k)) =
      Draft.complete ⟨d.opened, node :: d.before⟩ (others.map (Token.shift k)) := by
    rw [Draft.complete, Draft.readAll, Draft.read, htoken]
    rfl
  have hright : d.complete (inner ++ others.map (Token.shift l)) =
      Draft.complete ⟨d.opened, nodes.reverse ++ d.before⟩ (others.map (Token.shift l)) := by
    rw [Draft.complete_append, Draft.readAll_of_ofTokens hinner]
    rfl
  have hadd := (hd.add hrelated hnodes).complete hrelated
    (Token.moved_shift anywhere k l (fun _ => trivial) others)
  have hjoin := d.complete_join hrelated inner (others.map (Token.shift l))
  have hshift := hd.complete hrelated (Token.moved_shift anywhere 0 m (fun _ => trivial)
    (Token.join inner (others.map (Token.shift l))))
  rw [hright] at hjoin
  rw [Token.map_shift_zero] at hshift
  rw [hleft]
  exact hrelated.sameOutcome_trans (hrelated.sameOutcome_trans hadd hjoin) hshift

omit hrelated in
theorem ofTokens_append_congr {tokens inner others : List Token}
    (h : ∀ d : Draft,
      SameOutcome (fun _ _ => True) related (d.complete inner) (d.complete others)) :
    SameOutcome (fun _ _ => True) related
      (ofTokens (tokens ++ inner)) (ofTokens (tokens ++ others)) := by
  rw [ofTokens_eq, ofTokens_eq, Draft.complete_append, Draft.complete_append]
  cases Draft.empty.readAll tokens with
  | error e => exact .error trivial
  | ok d => exact h d

/-- Where the nodes of a partial are related to its tag, so are the nodes of two sources that differ
in one having the tag and the other the source of the partial. -/
theorem ofSource_substitute {a b q name : String} {tokens : List Token} {nodes : List Node}
    (ha : tokenize a = .ok tokens) (hlast : a.toList.getLast? ≠ some '{')
    (hname : IsName closeMark name) (hq : ofSource q = .ok nodes)
    (hmeet : ¬ BracesMeet q.toList b.toList)
    (hnodes : related [.inclusion name] nodes) :
    SameOutcome (fun _ _ => True) related
      (ofSource (a ++ (inclusionTag name ++ b))) (ofSource (a ++ (q ++ b))) := by
  obtain ⟨span, htag⟩ := tokenize_inclusion hname
  obtain ⟨inner, hinner, hofTokens⟩ := ofSource_eq_ok_iff.1 hq
  have hleft := tokenize_splice ha hlast htag (not_bracesMeet_inclusionTag name b)
  have hright := tokenize_splice ha hlast hinner hmeet
  cases hb : tokenize b with
  | error e =>
    rw [hb] at hleft hright
    rw [ofSource_of_scanError hleft, ofSource_of_scanError hright]
    exact .error trivial
  | ok others =>
    rw [hb] at hleft hright
    rw [ofSource_of_tokens hleft, ofSource_of_tokens hright]
    have hjoin := Draft.complete_join hrelated .empty tokens
      ((Token.join inner (others.map (Token.shift q.utf8ByteSize))).map
        (Token.shift a.utf8ByteSize))
    rw [← ofTokens_eq, ← ofTokens_eq] at hjoin
    suffices h : SameOutcome (fun _ _ => True) related (ofTokens _) (ofTokens _) from
      (hrelated.sameOutcome_trans h hjoin).mapError fun _ => trivial
    beta_reduce
    rw [Token.join_tag_cons, Token.join_nil, List.map_cons, Token.map_shift_shift, Token.shift,
      Token.join_append_tag]
    apply ofTokens_append_congr
    intro d
    exact complete_substitute hrelated rfl hofTokens hnodes d others _ _ _

end Node

namespace Node

mutual

theorem inclusion_mem_preorder {name : String} : ∀ (n : Node),
    .tag .inclusion name ∈ lexemes n → .inclusion name ∈ preorder n
  | .text _, h => by cases List.mem_singleton.1 h
  | .interpolation _ true, h => by cases List.mem_singleton.1 h
  | .interpolation _ false, h => by cases List.mem_singleton.1 h
  | .inclusion _, h => by
    cases List.mem_singleton.1 h
    exact List.mem_singleton.2 rfl
  | .block _ inverted children, h => by
    rcases List.mem_append.1 h with h | h
    · rcases List.mem_cons.1 h with h | h
      · cases inverted <;> cases h
      · exact List.mem_cons_of_mem _ (inclusion_mem_allPreorder children h)
    · cases List.mem_singleton.1 h

theorem inclusion_mem_allPreorder {name : String} : ∀ (ns : List Node),
    .tag .inclusion name ∈ allLexemes ns → .inclusion name ∈ allPreorder ns
  | n :: ns, h => by
    rcases List.mem_append.1 h with h | h
    · exact List.mem_append_left _ (inclusion_mem_preorder n h)
    · exact List.mem_append_right _ (inclusion_mem_allPreorder ns h)

end

theorem inclusion_mem_of_ofSource {a b name : String} {tokens : List Token}
    (ha : tokenize a = .ok tokens) (hlast : a.toList.getLast? ≠ some '{')
    (hname : IsName closeMark name) {nodes : List Node}
    (h : ofSource (a ++ (inclusionTag name ++ b)) = .ok nodes) :
    .inclusion name ∈ allPreorder nodes := by
  obtain ⟨found, hfound, hnodes⟩ := ofSource_eq_ok_iff.1 h
  obtain ⟨span, htag⟩ := tokenize_inclusion hname
  rw [tokenize_splice ha hlast htag (not_bracesMeet_inclusionTag name b)] at hfound
  apply inclusion_mem_allPreorder
  rw [(ofTokens_eq_ok_iff found nodes).1 hnodes]
  cases hb : tokenize b with
  | error e =>
    rw [hb] at hfound
    cases hfound
  | ok others =>
    rw [hb] at hfound
    cases hfound
    beta_reduce
    rw [Token.join_tag_cons, Token.join_nil, List.map_cons, Token.shift, Token.join_append_tag]
    exact List.mem_filter.2
      ⟨List.mem_map_of_mem (List.mem_append_right _ List.mem_cons_self), rfl⟩

theorem ChainsWithin.alike_inclusion {resolve : Resolver} {depth : Nat} {ns : List Node}
    (h : ChainsWithin resolve depth ns) {name : String} {t : Template}
    (hname : .inclusion name ∈ allPreorder ns) (ht : resolve name = some t) :
    Alike (partialText resolve depth) [.inclusion name] t.nodes := by
  intro scope
  cases depth with
  | zero => cases ht.symm.trans (h.resolve_eq_none hname)
  | succ depth =>
    have hchains := h.of_inclusion hname ht
    have hroom := hchains.shownIn_eq (Nat.le_succ depth) scope
    rw [shownIn_eq_showAllWith] at hroom
    rw [hroom]
    simp only [showAllWith, showWith, partialText, ht, String.append_empty]

end Node

namespace Template

/-- In a source whose text may open and close sections on both sides, the tag of a partial can be
replaced by the text of the partial: one source compiles exactly when the other does, and they show
the same unless partials are nested deeper than they may be. -/
theorem render_substitution (a b p q : String) (tokens : List Token)
    (ha : tokenize a = .ok tokens) (hlast : a.toList.getLast? ≠ some '{')
    (htrim : Trimmed p.toList) (hclose : ¬ closeMark <:+: p.toList) (included : Template)
    (hq : compile q = .ok included) (hmeet : ¬ BracesMeet q.toList b.toList)
    (resolve : Resolver) (hp : resolve p = some included) :
    ((∃ t, compile (a ++ "\x7b\x7b> " ++ p ++ " \x7d\x7d" ++ b) = .ok t) ↔
        ∃ u, compile (a ++ q ++ b) = .ok u) ∧
      ∀ t u, compile (a ++ "\x7b\x7b> " ++ p ++ " \x7d\x7d" ++ b) = .ok t →
        compile (a ++ q ++ b) = .ok u →
          ∀ (options : RenderOptions) (data : Value),
            Node.ChainsWithin resolve options.maxPartialDepth t.nodes →
              t.render resolve options data = u.render resolve options data := by
  have hsource : a ++ "\x7b\x7b> " ++ p ++ " \x7d\x7d" ++ b = a ++ (inclusionTag p ++ b) := by
    simp only [inclusionTag, String.append_assoc]
  have hspliced : a ++ q ++ b = a ++ (q ++ b) := String.append_assoc
  rw [hsource, hspliced]
  have hname : Node.IsName closeMark p := ⟨htrim, occurs_eq_false_iff.2 hclose⟩
  have houtcome {related : List Node → List Node → Prop} (h : Node.Congruence related) :=
    Node.ofSource_substitute h ha hlast hname (ofSource_of_compile hq) hmeet
  refine ⟨?_, fun t u ht hu options data hchains => ?_⟩
  · rw [exists_compile_eq_ok_iff, exists_compile_eq_ok_iff]
    exact (houtcome .top trivial).exists_ok_iff
  · have ht' := ofSource_of_compile ht
    have hmem := Node.inclusion_mem_of_ofSource ha hlast hname ht'
    have h := houtcome (Node.Alike.congruence _) (hchains.alike_inclusion hmem hp)
    rw [ht', ofSource_of_compile hu] at h
    cases h with
    | ok h =>
      rw [render, render, Node.render_eq_showAllWith, h, ← Node.render_eq_showAllWith]

theorem render_substitution_within_section :
    ∃ (resolve : Resolver) (t u included : Template),
      resolve "p" = some included ∧ compile "\x7b\x7bn\x7d\x7d\x7b\x7b> r\x7d\x7d" = .ok included ∧
      compile ("x\x7b\x7b#s\x7d\x7d" ++ "\x7b\x7b> " ++ "p" ++ " \x7d\x7d" ++
        "\x7b\x7b/s\x7d\x7dy") = .ok t ∧
      compile ("x\x7b\x7b#s\x7d\x7d" ++ "\x7b\x7bn\x7d\x7d\x7b\x7b> r\x7d\x7d" ++
        "\x7b\x7b/s\x7d\x7dy") = .ok u ∧
      ∀ data, t.render resolve ⟨1⟩ data = u.render resolve ⟨1⟩ data := by
  have ha : tokenize "x\x7b\x7b#s\x7d\x7d" = .ok [.text "x", .tag .sectionOpen "s" ⟨1, 7⟩] := by cbv
  have hq : Node.ofSource "\x7b\x7bn\x7d\x7d\x7b\x7b> r\x7d\x7d" =
      .ok [.interpolation "n" true, .inclusion "r"] := by cbv
  have ht : Node.ofSource ("x\x7b\x7b#s\x7d\x7d" ++ "\x7b\x7b> " ++ "p" ++ " \x7d\x7d" ++
      "\x7b\x7b/s\x7d\x7dy") =
      .ok [.text "x", .block "s" false [.inclusion "p"], .text "y"] := by cbv
  let resolve : Resolver := fun name => if name = "p" then some ⟨_, _, hq⟩ else none
  have hwithin : Node.ChainsWithin resolve 1
      [.text "x", .block "s" false [.inclusion "p"], .text "y"] := by
    intro names hnames
    cases hnames with
    | nil => exact Nat.zero_le 1
    | cons h hname hrest =>
      simp [Node.allPreorder, Node.preorder] at h
      subst h
      cases hname
      cases hrest with
      | nil => exact Nat.le_refl 1
      | cons h hname _ =>
        simp [Node.allPreorder, Node.preorder] at h
        subst h
        cases hname
  obtain ⟨hok, hrender⟩ := render_substitution "x\x7b\x7b#s\x7d\x7d" "\x7b\x7b/s\x7d\x7dy" "p"
    "\x7b\x7bn\x7d\x7d\x7b\x7b> r\x7d\x7d" _ ha (by decide) (by decide) (by decide) ⟨_, _, hq⟩
    (compile_eq_ok_iff.2 rfl) (by decide) resolve (if_pos rfl)
  obtain ⟨u, hu⟩ := hok.1 ⟨⟨_, _, ht⟩, compile_eq_ok_iff.2 rfl⟩
  exact ⟨resolve, ⟨_, _, ht⟩, u, ⟨_, _, hq⟩, if_pos rfl, compile_eq_ok_iff.2 rfl,
    compile_eq_ok_iff.2 rfl, hu,
    fun data => hrender _ u (compile_eq_ok_iff.2 rfl) hu ⟨1⟩ data hwithin⟩

end Template

end Logicless

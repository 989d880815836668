import Logicless.Template.Lexeme

namespace Logicless

namespace Token

theorem exists_eq_comment {token : Token} (h : token.lexeme.isComment = true) :
    ∃ name span, token = .tag .comment name span := by
  cases token with
  | text => cases h
  | tag kind name span =>
    cases kind <;> cases h
    exact ⟨name, span, rfl⟩

theorem exists_eq_tag {token : Token} {kind : TagKind} {name : String}
    (h : token.lexeme = .tag kind name) : ∃ span, token = .tag kind name span := by
  cases token <;> cases h
  exact ⟨_, rfl⟩

theorem lexemes_cons {token : Token} (h : token.lexeme.isComment = false) (tokens : List Token) :
    lexemes (token :: tokens) = token.lexeme :: lexemes tokens := by
  rw [lexemes, List.map_cons, List.filter_cons_of_pos (by rw [h]; rfl)]
  rfl

end Token

namespace Node

/-- The lexemes of all that was read before a place: of the nodes before each open section and its
open tag, the outermost first, and of the nodes before the place itself. -/
def enclosing : List OpenSection → List Node → List Lexeme
  | [], before => allLexemes before.reverse
  | s :: opened, before =>
    enclosing opened s.siblings ++ .tag (openKind s.inverted) s.name :: allLexemes before.reverse

theorem enclosing_cons (opened : List OpenSection) (node : Node) (before : List Node) :
    enclosing opened (node :: before) = enclosing opened before ++ lexemes node := by
  cases opened <;> simp [enclosing, allLexemes]

theorem build_open (opened : List OpenSection) (before : List Node) (name : String)
    (inverted : Bool) (span : Span) (tokens : List Token) :
    build opened before (.tag (openKind inverted) name span :: tokens) =
      build (⟨name, inverted, span.start, before⟩ :: opened) [] tokens := by
  cases inverted with
  | false =>
    change build opened before (.tag .sectionOpen name span :: tokens) = _
    rw [build]
  | true =>
    change build opened before (.tag .invertedSectionOpen name span :: tokens) = _
    rw [build]

theorem enclosing_cons_append {node : Node} {token : Token} {tokens : List Token}
    (h : lexemes node ++ Token.lexemes tokens = Token.lexemes (token :: tokens))
    (opened : List OpenSection) (before : List Node) :
    enclosing opened (node :: before) ++ Token.lexemes tokens =
      enclosing opened before ++ Token.lexemes (token :: tokens) := by
  rw [enclosing_cons, List.append_assoc, h]

theorem enclosing_open (opened : List OpenSection) (before : List Node) (name : String)
    (inverted : Bool) (offset : Nat) :
    enclosing (⟨name, inverted, offset, before⟩ :: opened) [] =
      enclosing opened before ++ [.tag (openKind inverted) name] := rfl

theorem enclosing_close (s : OpenSection) (opened : List OpenSection) (before : List Node) :
    enclosing opened (.block s.name s.inverted before.reverse :: s.siblings) =
      enclosing (s :: opened) before ++ [.tag .sectionClose s.name] := by
  simp [enclosing_cons, enclosing, lexemes]

/-- No lexeme is lost on the way from tokens to nodes, and none comes to stand in another place. -/
theorem allLexemes_of_build {opened : List OpenSection} {before nodes : List Node}
    {tokens : List Token} (h : build opened before tokens = .ok nodes) :
    allLexemes nodes = enclosing opened before ++ Token.lexemes tokens := by
  -- Every token that is read passes from the tokens to what encloses the place.
  induction tokens generalizing opened before with
  | nil =>
    cases opened with
    | nil =>
      cases h
      exact (List.append_nil _).symm
    | cons => cases h
  | cons token tokens ih =>
    cases token with
    | text content =>
      rw [build] at h
      rw [ih h]
      exact enclosing_cons_append rfl opened before
    | tag kind name span =>
      cases kind
      case escapedVariable | unescapedVariable | inclusion =>
        rw [build] at h
        rw [ih h]
        exact enclosing_cons_append rfl opened before
      case comment =>
        rw [build] at h
        exact ih h
      case sectionOpen | invertedSectionOpen =>
        rw [build] at h
        rw [ih h, enclosing_open, List.append_assoc]
        rfl
      case sectionClose =>
        cases opened with
        | nil =>
          rw [build] at h
          cases h
        | cons s opened =>
          rw [build] at h
          split at h
          · next hname =>
            rw [ih h, enclosing_close, List.append_assoc, hname]
            rfl
          · cases h

theorem exists_cons_of_lexemes {tokens : List Token} {l : Lexeme} {ls : List Lexeme}
    (h : Token.lexemes tokens = l :: ls) :
    ∃ token more, token.lexeme = l ∧ Token.lexemes more = ls ∧
      ∀ opened before, build opened before tokens = build opened before (token :: more) := by
  induction tokens with
  | nil => cases h
  | cons token tokens ih =>
    by_cases hc : token.lexeme.isComment = true
    · obtain ⟨name, span, rfl⟩ := Token.exists_eq_comment hc
      obtain ⟨next, more, hl, hls, hbuild⟩ := ih h
      refine ⟨next, more, hl, hls, fun opened before => ?_⟩
      rw [build]
      exact hbuild opened before
    · rw [Token.lexemes_cons (Bool.eq_false_iff.2 hc)] at h
      obtain ⟨hl, hls⟩ := List.cons.inj h
      exact ⟨token, tokens, hl, hls, fun _ _ => rfl⟩

theorem build_of_lexemes_eq_nil {tokens : List Token} (h : Token.lexemes tokens = [])
    (before : List Node) : build [] before tokens = .ok before.reverse := by
  induction tokens with
  | nil => rfl
  | cons token tokens ih =>
    by_cases hc : token.lexeme.isComment = true
    · obtain ⟨name, span, rfl⟩ := Token.exists_eq_comment hc
      rw [build]
      exact ih h
    · rw [Token.lexemes_cons (Bool.eq_false_iff.2 hc)] at h
      cases h

theorem build_of_lexemes_eq_singleton {node : Node} {token : Token}
    (h : lexemes node = [token.lexeme]) (opened : List OpenSection) (before : List Node)
    (tokens : List Token) :
    build opened before (token :: tokens) = build opened (node :: before) tokens := by
  obtain ⟨l, hl⟩ : ∃ l, token.lexeme = l := ⟨_, rfl⟩
  rw [hl] at h
  cases node with
  | text content =>
    cases h
    cases token <;> cases hl
    rw [build]
  | interpolation name escaped =>
    cases escaped
    case true | false =>
      cases h
      obtain ⟨span, rfl⟩ := Token.exists_eq_tag hl
      rw [build]
  | inclusion name =>
    cases h
    obtain ⟨span, rfl⟩ := Token.exists_eq_tag hl
    rw [build]
  | block name inverted children => simp [lexemes] at h

theorem exists_build_of_lexemes_eq_singleton {node : Node} {l : Lexeme} (hnode : lexemes node = [l])
    {tokens : List Token} {rest : List Lexeme} (h : Token.lexemes tokens = lexemes node ++ rest)
    (opened : List OpenSection) (before : List Node) :
    ∃ more, Token.lexemes more = rest ∧
      build opened before tokens = build opened (node :: before) more := by
  rw [hnode] at h
  obtain ⟨token, more, rfl, hmore, hbuild⟩ := exists_cons_of_lexemes h
  refine ⟨more, hmore, ?_⟩
  rw [hbuild, build_of_lexemes_eq_singleton hnode]

mutual

theorem exists_build_of_lexemes : ∀ (node : Node) {tokens : List Token} {rest : List Lexeme},
    Token.lexemes tokens = lexemes node ++ rest → ∀ opened before,
      ∃ more, Token.lexemes more = rest ∧
        build opened before tokens = build opened (node :: before) more
  | .text _, _, _, h, opened, before => exists_build_of_lexemes_eq_singleton rfl h opened before
  | .interpolation _ true, _, _, h, opened, before =>
    exists_build_of_lexemes_eq_singleton rfl h opened before
  | .interpolation _ false, _, _, h, opened, before =>
    exists_build_of_lexemes_eq_singleton rfl h opened before
  | .inclusion _, _, _, h, opened, before =>
    exists_build_of_lexemes_eq_singleton rfl h opened before
  | .block name inverted children, tokens, rest, h, opened, before => by
    rw [lexemes, List.cons_append, List.cons_append, List.append_assoc] at h
    obtain ⟨token, inner, htoken, hinner, hopen⟩ := exists_cons_of_lexemes h
    obtain ⟨span, rfl⟩ := Token.exists_eq_tag htoken
    obtain ⟨outer, houter, hchildren⟩ := exists_build_of_allLexemes children hinner
      (⟨name, inverted, span.start, before⟩ :: opened) []
    obtain ⟨token, more, htoken, hmore, hclose⟩ := exists_cons_of_lexemes houter
    obtain ⟨span', rfl⟩ := Token.exists_eq_tag htoken
    refine ⟨more, hmore, ?_⟩
    rw [hopen, build_open, hchildren, hclose, build, if_pos rfl, List.append_nil,
      List.reverse_reverse]

theorem exists_build_of_allLexemes : ∀ (nodes : List Node) {tokens : List Token}
    {rest : List Lexeme}, Token.lexemes tokens = allLexemes nodes ++ rest → ∀ opened before,
      ∃ more, Token.lexemes more = rest ∧
        build opened before tokens = build opened (nodes.reverse ++ before) more
  | [], tokens, _, h, _, _ => ⟨tokens, h, rfl⟩
  | node :: nodes, tokens, rest, h, opened, before => by
    rw [allLexemes, List.append_assoc] at h
    obtain ⟨middle, hmiddle, hnode⟩ := exists_build_of_lexemes node h opened before
    obtain ⟨more, hmore, hnodes⟩ :=
      exists_build_of_allLexemes nodes hmiddle opened (node :: before)
    refine ⟨more, hmore, ?_⟩
    rw [hnode, hnodes, List.reverse_cons, List.append_assoc]
    rfl

end

theorem ofTokens_of_lexemes {tokens : List Token} {nodes : List Node}
    (h : allLexemes nodes = Token.lexemes tokens) : ofTokens tokens = .ok nodes := by
  rw [← List.append_nil (allLexemes nodes)] at h
  obtain ⟨more, hmore, hbuild⟩ := exists_build_of_allLexemes nodes h.symm [] []
  rw [ofTokens, hbuild, build_of_lexemes_eq_nil hmore, List.append_nil, List.reverse_reverse]

/-- Tokens make up nodes exactly when, but for spans and comments, they are the tokens of these
nodes. -/
theorem ofTokens_eq_ok_iff (tokens : List Token) (nodes : List Node) :
    ofTokens tokens = .ok nodes ↔ allLexemes nodes = Token.lexemes tokens := by
  constructor
  · exact allLexemes_of_build
  · exact ofTokens_of_lexemes

mutual

theorem isComment_of_mem_lexemes : ∀ (node : Node), ∀ l ∈ lexemes node, l.isComment = false
  | .text _, l, hl => by
    cases List.mem_singleton.1 hl
    rfl
  | .interpolation _ true, l, hl => by
    cases List.mem_singleton.1 hl
    rfl
  | .interpolation _ false, l, hl => by
    cases List.mem_singleton.1 hl
    rfl
  | .inclusion _, l, hl => by
    cases List.mem_singleton.1 hl
    rfl
  | .block name inverted children, l, hl => by
    rcases List.mem_append.1 hl with hl | hl
    · rcases List.mem_cons.1 hl with rfl | hl
      · cases inverted <;> rfl
      · exact isComment_of_mem_allLexemes children l hl
    · cases List.mem_singleton.1 hl
      rfl

theorem isComment_of_mem_allLexemes :
    ∀ (nodes : List Node), ∀ l ∈ allLexemes nodes, l.isComment = false
  | node :: nodes, l, hl => by
    rcases List.mem_append.1 hl with hl | hl
    · exact isComment_of_mem_lexemes node l hl
    · exact isComment_of_mem_allLexemes nodes l hl

end

end Node

end Logicless

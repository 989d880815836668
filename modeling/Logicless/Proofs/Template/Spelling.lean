import Mathlib
import Logicless.Proofs.Template.Likeness
import Logicless.Proofs.Template.Printable
import Logicless.Render
import Logicless.Template.Spelling

namespace Logicless

open Text

theorem not_mem_of_blank {cs : List Char} (h : ∀ c ∈ cs, isBlank c = true) {d : Char}
    (hd : isBlank d = false) : d ∉ cs := by
  intro hmem
  cases hd.symm.trans (h d hmem)

theorem eq_of_mem_closeMark : ∀ c ∈ closeMark, c = '}' := by
  simp [closeMark]

theorem eq_of_mem_tripleCloseMark : ∀ c ∈ tripleCloseMark, c = '}' := by
  simp [tripleCloseMark]

namespace Padding

variable {before name after : List Char}

theorem trim_eq (h : Padding before name after) (hname : Trimmed name) :
    trim (before ++ name ++ after) = name :=
  (trim_append h.before_blank h.after_blank name).trans hname

theorem not_infix {mark tail : List Char} (h : Padding before name after)
    (hmark : ∀ c ∈ mark, c = '}') (hname : ¬ mark <:+: name) (htail : ¬ mark <:+: tail) :
    ¬ mark <:+: before ++ name ++ after ++ tail := by
  cases mark with
  | nil => exact absurd List.nil_infix htail
  | cons m mark =>
    obtain rfl : m = '}' := hmark m List.mem_cons_self
    have hnot {c : Char} (hc : c ≠ '}') : c ∉ '}' :: mark := fun hmem => hc (hmark c hmem)
    have hbefore : '}' ∉ before := not_mem_of_blank h.before_blank rfl
    have hafter : '}' ∉ after := not_mem_of_blank h.after_blank rfl
    intro hinfix
    rw [List.append_assoc, List.append_assoc] at hinfix
    have hrest := infix_of_infix_append hbefore hinfix
    -- A character that is no brace stands between the name and the tail, or at the end of the name.
    cases after with
    | cons a after =>
      rw [List.mem_cons, not_or] at hafter
      exact not_infix_append_cons (hnot (Ne.symm hafter.1)) hname
        (fun hoccurs => htail (infix_of_infix_append hafter.2 hoccurs)) hrest
    | nil =>
      have hlast : name.getLast? ≠ some '}' := fun hlast => h.after_ne_nil hlast rfl
      rcases List.eq_nil_or_concat name with rfl | ⟨start, d, rfl⟩
      · exact htail hrest
      · rw [List.concat_eq_append] at hname hlast hrest
        rw [List.getLast?_concat] at hlast
        rw [List.nil_append, List.append_assoc] at hrest
        have hd : d ≠ '}' := fun heq => hlast (congrArg some heq)
        have hstart : ¬ '}' :: mark <:+: start := fun hoccurs =>
          hname (hoccurs.trans (List.prefix_append start [d]).isInfix)
        exact not_infix_append_cons (hnot hd) hstart htail hrest

theorem of_trim {cs tail : List Char} (h : ¬ '}' :: tail <:+: cs ++ tail) :
    ∃ before after, cs = before ++ trim cs ++ after ∧ Padding before (trim cs) after := by
  obtain ⟨before, after, hcs, hbefore, hafter⟩ := exists_eq_append_trim cs
  refine ⟨before, after, hcs, hbefore, hafter, ?_⟩
  rintro hlast rfl
  obtain ⟨start, hstart⟩ := List.getLast?_eq_some_iff.1 hlast
  apply h
  rw [hcs, hstart]
  exact ⟨before ++ start, [], by simp⟩

end Padding

theorem Reading.spelling {content name : List Char} {kind : TagKind}
    (h : Reading content kind name) (hhead : content.head? ≠ some '{')
    (hclose : ¬ closeMark <:+: content ++ ['}']) :
    TagSpelling kind name (openMark ++ content ++ closeMark) := by
  cases h with
  | @sigil blanks rest c kind hblanks hkind =>
    have hrest : ¬ closeMark <:+: rest ++ ['}'] := by
      intro hoccurs
      apply hclose
      rw [List.append_assoc, List.cons_append]
      exact hoccurs.trans ((List.suffix_cons c _).trans (List.suffix_append ..)).isInfix
    obtain ⟨before, after, heq, hpadding⟩ := Padding.of_trim hrest
    have hname : ¬ closeMark <:+: trim rest := fun hoccurs =>
      hrest ((hoccurs.trans (isInfix_trim rest)).trans (List.prefix_append rest ['}']).isInfix)
    have hspelling := TagSpelling.sigil hkind hblanks hpadding fun _ => hname
    rwa [← heq] at hspelling
  | @plain blanks rest hblanks hrest =>
    have htrim : trim (blanks ++ rest) = trim rest := by
      have hnil : ∀ c ∈ ([] : List Char), isBlank c = true := nofun
      simpa using trim_append hblanks hnil rest
    obtain ⟨before, after, heq, hpadding⟩ := Padding.of_trim hclose
    rw [htrim] at heq hpadding
    have hspelling := TagSpelling.plain hpadding (by
      rintro hbrace rfl
      apply hhead
      rw [heq, List.nil_append, List.head?_append, hbrace]
      rfl)
    rwa [← heq] at hspelling

theorem TagBody.WellFormed.spelling {body : TagBody} (h : body.WellFormed) :
    TagSpelling body.classify.1 body.classify.2 body.source := by
  obtain ⟨triple, content⟩ := body
  cases triple with
  | true =>
    obtain ⟨before, after, heq, hpadding⟩ := Padding.of_trim (occurs_eq_false_iff.1 h)
    have hspelling := TagSpelling.triple hpadding
    rwa [← heq] at hspelling
  | false => exact (reading_classify content).spelling h.1 (occurs_eq_false_iff.1 h.2)

theorem Reading.of_name {before name after : List Char} (h : Padding before name after)
    (hname : Trimmed name) (hplain : name.head?.bind TagKind.ofSigil? = none) :
    Reading (before ++ name ++ after) .escapedVariable name := by
  cases name with
  | nil =>
    have hblanks : ∀ c ∈ before ++ after, isBlank c = true :=
      List.forall_mem_append.2 ⟨h.before_blank, h.after_blank⟩
    have hreading : Reading (before ++ after ++ []) .escapedVariable [] := .plain hblanks nofun
    simpa using hreading
  | cons c cs =>
    have hhead := hname.head_not_blank c rfl
    have hrest : ∀ d ∈ (c :: cs ++ after).head?, isBlank d = false ∧ TagKind.ofSigil? d = none := by
      rintro d hd
      cases Option.some.inj hd
      exact ⟨hhead, hplain⟩
    have hnil : ∀ c ∈ ([] : List Char), isBlank c = true := nofun
    have htrim : trim (c :: cs ++ after) = c :: cs :=
      (trim_append hnil h.after_blank (c :: cs)).trans hname
    have hreading := Reading.plain h.before_blank hrest
    rwa [htrim, ← List.append_assoc] at hreading

theorem Reading.of_sigil {blanks before name after : List Char} {c : Char} {kind : TagKind}
    (hkind : TagKind.ofSigil? c = some kind) (hblanks : ∀ b ∈ blanks, isBlank b = true)
    (h : Padding before name after) (hname : Trimmed name) :
    Reading (blanks ++ c :: (before ++ name ++ after)) kind name := by
  have hreading : Reading (blanks ++ c :: (before ++ name ++ after)) kind
      (trim (before ++ name ++ after)) := .sigil hblanks hkind
  rwa [h.trim_eq hname] at hreading

theorem ne_brace_of_ofSigil? {c : Char} {kind : TagKind} (h : TagKind.ofSigil? c = some kind) :
    c ≠ '{' ∧ c ≠ '}' := by
  constructor
  · rintro rfl
    cases h
  · rintro rfl
    cases h

theorem head?_ne_brace {blanks rest : List Char} (hblanks : ∀ c ∈ blanks, isBlank c = true)
    (hrest : blanks = [] → rest.head? ≠ some '{') : (blanks ++ rest).head? ≠ some '{' := by
  cases blanks with
  | nil => exact hrest rfl
  | cons b blanks =>
    intro hhead
    cases Option.some.inj hhead
    cases hblanks '{' List.mem_cons_self

theorem Lexeme.Printable.isName {kind : TagKind} {name : String} {atEnd : Bool}
    (h : Printable atEnd (.tag kind name))
    (hclose : kind = .unescapedVariable → ¬ closeMark <:+: name.toList) :
    Node.IsName closeMark name := by
  cases kind with
  | unescapedVariable => exact ⟨h.1, occurs_eq_false_iff.2 (hclose rfl)⟩
  | escapedVariable => exact h.1
  | sectionOpen | invertedSectionOpen | sectionClose | comment | inclusion => exact h

theorem TagSpelling.exists_body {kind : TagKind} {name : String} {cs : List Char} {atEnd : Bool}
    (h : TagSpelling kind name.toList cs) (hname : Lexeme.Printable atEnd (.tag kind name)) :
    ∃ body : TagBody, body.WellFormed ∧ body.source = cs ∧ body.classify = (kind, name.toList) := by
  generalize hchars : name.toList = chars at h
  cases h with
  | @plain before _ after h hbefore =>
    subst hchars
    obtain ⟨⟨htrimmed, hclose⟩, hplain⟩ := hname
    refine ⟨⟨false, before ++ name.toList ++ after⟩, ⟨?_, ?_⟩, rfl, ?_⟩
    · rw [List.append_assoc]
      apply head?_ne_brace h.before_blank
      rintro rfl hhead
      rw [List.head?_append, Option.or_eq_some_iff] at hhead
      rcases hhead with hhead | ⟨-, hhead⟩
      · exact hbefore hhead rfl
      · exact not_mem_of_blank h.after_blank rfl (List.mem_of_head? hhead)
    · exact occurs_eq_false_iff.2
        (h.not_infix eq_of_mem_closeMark (occurs_eq_false_iff.1 hclose) (by decide))
    · exact (Reading.of_name h htrimmed hplain).classify_eq
  | @sigil blanks before _ after c _ hkind hblanks h hclose =>
    subst hchars
    obtain ⟨htrimmed, hclose⟩ := hname.isName hclose
    obtain ⟨hopen, hbrace⟩ := ne_brace_of_ofSigil? hkind
    refine ⟨⟨false, blanks ++ c :: (before ++ name.toList ++ after)⟩, ⟨?_, ?_⟩, rfl, ?_⟩
    · exact head?_ne_brace hblanks fun _ hhead => hopen (Option.some.inj hhead)
    · have hskipped : '}' ∉ blanks ++ [c] := by
        rw [List.mem_append, List.mem_singleton, not_or]
        exact ⟨not_mem_of_blank hblanks rfl, Ne.symm hbrace⟩
      have hrest : ¬ closeMark <:+: before ++ name.toList ++ after ++ ['}'] :=
        h.not_infix eq_of_mem_closeMark (occurs_eq_false_iff.1 hclose) (by decide)
      refine occurs_eq_false_iff.2 fun hoccurs => hrest (infix_of_infix_append hskipped ?_)
      simpa [closeMark] using hoccurs
    · exact (Reading.of_sigil hkind hblanks h htrimmed).classify_eq
  | @triple before _ after h =>
    subst hchars
    obtain ⟨htrimmed, hclose⟩ := hname
    refine ⟨⟨true, before ++ name.toList ++ after⟩, ?_, rfl, ?_⟩
    · exact occurs_eq_false_iff.2
        (h.not_infix eq_of_mem_tripleCloseMark (occurs_eq_false_iff.1 hclose) (by decide))
    · exact congrArg (Prod.mk TagKind.unescapedVariable) (h.trim_eq htrimmed)

namespace Piece

/-- A piece that stands for the same, which may be another tag. -/
inductive Alike : Piece → Piece → Prop
  | text (content : List Char) : Alike (.text content) (.text content)
  | tag {body body' : TagBody} (h : body'.WellFormed) (hclassify : body'.classify = body.classify) :
    Alike (.tag body) (.tag body')

theorem Follows.alike {content : List Char} {ps qs : List Piece} (h : Follows content ps)
    (hps : List.Forall₂ Alike ps qs) : Follows content qs := by
  cases hps with
  | nil => trivial
  | cons hp hps => cases hp <;> exact h

theorem Tiling.alike {ps qs : List Piece} (h : Tiling ps) (hps : List.Forall₂ Alike ps qs) :
    Tiling qs := by
  induction hps with
  | nil => trivial
  | cons hp hps ih =>
    cases hp with
    | text content => exact ⟨h.1, h.2.1, h.2.2.1.alike hps, ih h.2.2.2⟩
    | tag hbody => exact ⟨hbody, ih h.2⟩

/-- Whatever the moves, pieces that stand for the same have the same tokens but for their places. -/
theorem moved_tokens {ps qs : List Piece} (hps : List.Forall₂ Alike ps qs) (offset offset' : Nat) :
    List.Forall₂ (Token.Moved fun _ _ => True) (tokens offset ps) (tokens offset' qs) := by
  induction hps generalizing offset offset' with
  | nil => exact .nil
  | cons hp hps ih =>
    refine .cons ?_ (ih _ _)
    cases hp with
    | text content => exact .text _
    | tag hbody hclassify =>
      rw [token, token, TagBody.token, TagBody.token, hclassify]
      exact .tag _ _ trivial

theorem Tiling.exists_alike {ps : List Piece} (h : Tiling ps) {offset : Nat}
    {written : List (List Char)}
    (hwritten : List.Forall₂ Token.Spelling (tokens offset ps) written) :
    ∃ qs, List.Forall₂ Alike ps qs ∧ allSource qs = written.flatten := by
  induction ps generalizing offset written with
  | nil =>
    cases hwritten
    exact ⟨[], .nil, rfl⟩
  | cons p ps ih =>
    cases hwritten with
    | @cons _ cs _ written hcs hwritten =>
      cases p with
      | text content =>
        obtain ⟨qs, hqs, hsource⟩ := ih h.2.2.2 hwritten
        cases hcs
        refine ⟨.text content :: qs, .cons (.text content) hqs, ?_⟩
        rw [allSource_cons, hsource, source, List.flatten_cons, String.toList_ofList]
      | tag body =>
        obtain ⟨qs, hqs, hsource⟩ := ih h.2 hwritten
        rw [token, TagBody.token] at hcs
        cases hcs with
        | tag _ hspelling =>
          obtain ⟨body', hbody', hsource', hclassify⟩ :=
            hspelling.exists_body (h.1.printable true)
          rw [String.toList_ofList] at hclassify
          refine ⟨.tag body' :: qs, .cons (.tag hbody' hclassify) hqs, ?_⟩
          rw [allSource_cons, hsource, source, hsource', List.flatten_cons]

theorem spelling_tokens {ps : List Piece} (h : Tiling ps) (offset : Nat) :
    List.Forall₂ Token.Spelling (tokens offset ps) (ps.map source) := by
  induction ps generalizing offset with
  | nil => exact .nil
  | cons p ps ih =>
    cases p with
    | text content =>
      have htext := Token.Spelling.text (String.ofList content)
      rw [String.toList_ofList] at htext
      exact .cons htext (ih h.2.2.2 _)
    | tag body =>
      have hspelling := h.1.spelling
      refine .cons (.tag _ ?_) (ih h.2 _)
      rwa [String.toList_ofList]

end Piece

theorem spells_of_tokenize {source : String} {tokens : List Token}
    (h : tokenize source = .ok tokens) : Token.Spells tokens source := by
  obtain ⟨ps, hps, hsource, rfl⟩ := Piece.exists_tiling_of_scan h
  exact ⟨ps.map Piece.source, Piece.spelling_tokens hps 0, hsource.symm.trans rfl⟩

theorem exists_tokenize_of_spells {source other : String} {tokens : List Token}
    (h : tokenize source = .ok tokens) (hother : Token.Spells tokens other) :
    ∃ others, tokenize other = .ok others ∧
      List.Forall₂ (Token.Moved fun _ _ => True) tokens others := by
  obtain ⟨ps, hps, -, rfl⟩ := Piece.exists_tiling_of_scan h
  obtain ⟨written, hwritten, hsource⟩ := hother
  obtain ⟨qs, hqs, hqsource⟩ := hps.exists_alike hwritten
  refine ⟨Piece.tokens 0 qs, ?_, Piece.moved_tokens hqs 0 0⟩
  rw [tokenize, hsource, ← hqsource, (hps.alike hqs).scan_eq]

theorem Token.map_lexeme_of_moved {moved : Nat → Nat → Prop} {tokens others : List Token}
    (h : List.Forall₂ (Token.Moved moved) tokens others) :
    others.map lexeme = tokens.map lexeme := by
  induction h with
  | nil => rfl
  | cons htoken htokens ih =>
    rw [List.map_cons, List.map_cons, ih]
    cases htoken <;> rfl

theorem Node.ofTokens_moved {moved : Nat → Nat → Prop} {tokens others : List Token}
    (h : List.Forall₂ (Token.Moved moved) tokens others) :
    SameOutcome (NestingError.Moved moved) (· = ·) (ofTokens tokens) (ofTokens others) := by
  have hempty : Draft.empty.Alike moved (fun _ _ => True) .empty := ⟨.nil, trivial⟩
  have houtcome := hempty.complete .top h
  rw [← ofTokens_eq, ← ofTokens_eq] at houtcome
  cases hnodes : ofTokens tokens with
  | ok nodes =>
    have hothers : ofTokens others = .ok nodes := by
      rw [ofTokens_eq_ok_iff] at hnodes ⊢
      rw [hnodes, Token.lexemes, Token.lexemes, Token.map_lexeme_of_moved h]
    rw [hothers]
    exact .ok rfl
  | error e =>
    rw [hnodes] at houtcome
    generalize ofTokens others = outcome at houtcome
    cases houtcome with
    | error he => exact .error he

inductive CompileError.Alike : CompileError → CompileError → Prop
  | scan (e e' : ScanError) : Alike (.scan e) (.scan e')
  | nesting {e e' : NestingError} (h : e.Moved (fun _ _ => True) e') :
    Alike (.nesting e) (.nesting e')

namespace Template

theorem sameOutcome_compile {errors : CompileError → CompileError → Prop} {source other : String}
    (h : SameOutcome errors (· = ·) (Node.ofSource source) (Node.ofSource other)) :
    SameOutcome errors
      (fun t u => t.nodes = u.nodes ∧ ∀ (resolve : Resolver) (options : RenderOptions)
        (data : Value), t.render resolve options data = u.render resolve options data)
      (compile source) (compile other) := by
  cases hs : compile source with
  | error e =>
    rw [compile_eq_error_iff.1 hs] at h
    generalize ho : Node.ofSource other = outcome at h
    cases h with
    | error he =>
      rw [compile_eq_error_iff.2 ho]
      exact .error he
  | ok t =>
    rw [ofSource_of_compile hs] at h
    generalize ho : Node.ofSource other = outcome at h
    cases h with
    | ok hnodes =>
      subst hnodes
      have hu : compile other = .ok ⟨other, t.nodes, ho⟩ := compile_eq_ok_iff.2 rfl
      rw [hu]
      exact .ok ⟨rfl, fun _ _ _ => rfl⟩

/-- A source spells its own tokens, and whatever else spells them has the same tokens but for their
places, compiles to the same nodes or has the same error, and renders alike. -/
theorem compile_respelled (source other : String) (tokens : List Token)
    (h : tokenize source = .ok tokens) (hother : Token.Spells tokens other) :
    Token.Spells tokens source ∧
      (∃ others, tokenize other = .ok others ∧
        others.map Token.lexeme = tokens.map Token.lexeme) ∧
      SameOutcome CompileError.Alike
        (fun t u => t.nodes = u.nodes ∧ ∀ (resolve : Resolver) (options : RenderOptions)
          (data : Value), t.render resolve options data = u.render resolve options data)
        (compile source) (compile other) := by
  obtain ⟨others, hothers, hmoved⟩ := exists_tokenize_of_spells h hother
  refine ⟨spells_of_tokenize h, ⟨others, hothers, Token.map_lexeme_of_moved hmoved⟩, ?_⟩
  apply sameOutcome_compile
  rw [Node.ofSource_of_tokens h, Node.ofSource_of_tokens hothers]
  exact (Node.ofTokens_moved hmoved).mapError fun he => .nesting he

theorem spells_sample :
    Token.Spells [.text "é", .tag .sectionOpen "s" ⟨2, 8⟩, .tag .unescapedVariable "a" ⟨8, 14⟩,
        .tag .escapedVariable "\x7bb\x7d" ⟨14, 23⟩, .tag .sectionClose "s" ⟨23, 29⟩]
      "é\x7b\x7b\u3000#\ts \x7d\x7d\x7b\x7b\x7b a\x7d\x7d\x7d\x7b\x7b\u00a0\x7bb\x7d\n\x7d\x7d\x7b\x7b/s\x7d\x7d" := by
  have hopen : TagSpelling .sectionOpen "s".toList _ :=
    @TagSpelling.sigil ['\u3000'] ['\t'] "s".toList [' '] '#' _ rfl
      (List.forall_mem_singleton.2 rfl)
      ⟨List.forall_mem_singleton.2 rfl, List.forall_mem_singleton.2 rfl, nofun⟩ nofun
  have htriple : TagSpelling .unescapedVariable "a".toList _ :=
    @TagSpelling.triple [' '] "a".toList [] ⟨List.forall_mem_singleton.2 rfl, nofun, by decide⟩
  have hplain : TagSpelling .escapedVariable "\x7bb\x7d".toList _ :=
    @TagSpelling.plain ['\u00a0'] "\x7bb\x7d".toList ['\n']
      ⟨List.forall_mem_singleton.2 rfl, List.forall_mem_singleton.2 rfl, nofun⟩ nofun
  have hclose : TagSpelling .sectionClose "s".toList _ :=
    @TagSpelling.sigil [] [] "s".toList [] '/' _ rfl nofun ⟨nofun, nofun, by decide⟩ nofun
  refine ⟨_, .cons (.text "é") (.cons (.tag _ hopen) (.cons (.tag _ htriple)
    (.cons (.tag _ hplain) (.cons (.tag _ hclose) .nil)))), ?_⟩
  decide

/-- A no-break space and an ideographic one are blanks, braces belong to a name, and triple braces
take the place of a sigil. -/
theorem compile_respelled_no_break_space :
    ∃ t u,
      compile "é\x7b\x7b#s\x7d\x7d\x7b\x7b&a\x7d\x7d\x7b\x7b \x7bb\x7d \x7d\x7d\x7b\x7b/s\x7d\x7d" =
        .ok t ∧
      compile
        "é\x7b\x7b\u3000#\ts \x7d\x7d\x7b\x7b\x7b a\x7d\x7d\x7d\x7b\x7b\u00a0\x7bb\x7d\n\x7d\x7d\x7b\x7b/s\x7d\x7d" =
        .ok u ∧
      t.nodes = [.text "é", .block "s" false [.interpolation "a" false,
        .interpolation "\x7bb\x7d" true]] ∧ t.nodes = u.nodes := by
  have htokens : tokenize
        "é\x7b\x7b#s\x7d\x7d\x7b\x7b&a\x7d\x7d\x7b\x7b \x7bb\x7d \x7d\x7d\x7b\x7b/s\x7d\x7d" =
      .ok [.text "é", .tag .sectionOpen "s" ⟨2, 8⟩, .tag .unescapedVariable "a" ⟨8, 14⟩,
        .tag .escapedVariable "\x7bb\x7d" ⟨14, 23⟩, .tag .sectionClose "s" ⟨23, 29⟩] := by cbv
  have hnodes : Node.ofSource
        "é\x7b\x7b#s\x7d\x7d\x7b\x7b&a\x7d\x7d\x7b\x7b \x7bb\x7d \x7d\x7d\x7b\x7b/s\x7d\x7d" =
      .ok [.text "é", .block "s" false [.interpolation "a" false,
        .interpolation "\x7bb\x7d" true]] := by cbv
  have ht := compile_eq_ok_iff.2 (rfl : Template.source ⟨_, _, hnodes⟩ = _)
  obtain ⟨-, -, houtcome⟩ := compile_respelled _ _ _ htokens spells_sample
  rw [ht] at houtcome
  generalize compile _ = outcome at houtcome ⊢
  cases houtcome with
  | ok h => exact ⟨_, _, ht, rfl, rfl, h.1⟩

end Template

end Logicless

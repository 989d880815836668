import Mathlib
import Logicless.Proofs.Template.Printable

namespace Logicless

open Text

def TagKind.printedSigil : TagKind → List Char
  | sectionOpen => ['#']
  | invertedSectionOpen => ['^']
  | sectionClose => ['/']
  | comment => ['!']
  | inclusion => ['>']
  | escapedVariable | unescapedVariable => []

namespace TagBody

def printed (kind : TagKind) (name : String) : TagBody :=
  ⟨kind = .unescapedVariable, kind.printedSigil ++ ' ' :: (name.toList ++ [' '])⟩

theorem isBlank_of_mem_blank : ∀ c ∈ [' '], isBlank c = true :=
  List.forall_mem_singleton.2 rfl

theorem trim_blanks {name : List Char} (blanks : List Char)
    (hblanks : ∀ c ∈ blanks, isBlank c = true) (h : Trimmed name) :
    trim (blanks ++ name ++ [' ']) = name :=
  (trim_append hblanks isBlank_of_mem_blank _).trans h

theorem classify_printed {kind : TagKind} {name : String} {atEnd : Bool}
    (h : Lexeme.Printable atEnd (.tag kind name)) :
    (printed kind name).classify = (kind, name.toList) := by
  have hsigil {c : Char} (hkind : TagKind.ofSigil? c = some kind) (hname : Trimmed name.toList) :
      classify ⟨false, [] ++ c :: ([' '] ++ name.toList ++ [' '])⟩ = (kind, name.toList) := by
    rw [(Reading.sigil (by simp) hkind).classify_eq, trim_blanks [' '] isBlank_of_mem_blank hname]
  cases kind with
  | unescapedVariable =>
    exact congrArg (Prod.mk TagKind.unescapedVariable) (trim_blanks [' '] isBlank_of_mem_blank h.1)
  | escapedVariable =>
    obtain ⟨⟨hname, -⟩, hplain⟩ := h
    have hhead := hname.head_not_blank
    cases hcs : name.toList with
    | nil =>
      rw [printed, hcs]
      rfl
    | cons c cs =>
      rw [hcs] at hname hhead hplain
      have hrest : ∀ d ∈ (c :: cs ++ [' ']).head?,
          isBlank d = false ∧ TagKind.ofSigil? d = none := by
        rintro d hd
        cases Option.some.inj hd
        exact ⟨hhead c rfl, hplain⟩
      have hreading : Reading ([' '] ++ (c :: cs ++ [' '])) .escapedVariable
          (trim (c :: cs ++ [' '])) := .plain isBlank_of_mem_blank hrest
      rw [← List.nil_append (c :: cs), trim_blanks [] (by simp) hname] at hreading
      rw [printed, hcs]
      exact hreading.classify_eq
  | sectionOpen | invertedSectionOpen | sectionClose | comment | inclusion => exact hsigil rfl h.1

theorem not_infix_blanks {mark sigil name tail : List Char} (hmark : ' ' ∉ mark)
    (hsigil : ¬ mark <:+: sigil) (hname : ¬ mark <:+: name) (htail : ¬ mark <:+: tail) :
    ¬ mark <:+: sigil ++ ' ' :: (name ++ [' ']) ++ tail := by
  have h := not_infix_append_cons hmark hsigil (not_infix_append_cons hmark hname htail)
  simpa using h

theorem wellFormed_printed {kind : TagKind} {name : String} {atEnd : Bool}
    (h : Lexeme.Printable atEnd (.tag kind name)) : (printed kind name).WellFormed := by
  cases kind with
  | unescapedVariable =>
    exact occurs_eq_false_iff.2
      (not_infix_blanks (by decide) (by decide) (occurs_eq_false_iff.1 h.2) (by decide))
  | escapedVariable =>
    exact ⟨by simp [printed, TagKind.printedSigil], occurs_eq_false_iff.2
      (not_infix_blanks (by decide) (by decide) (occurs_eq_false_iff.1 h.1.2) (by decide))⟩
  | sectionOpen | invertedSectionOpen | sectionClose | comment | inclusion =>
    exact ⟨by simp [printed, TagKind.printedSigil], occurs_eq_false_iff.2
      (not_infix_blanks (by decide) (by decide) (occurs_eq_false_iff.1 h.2) (by decide))⟩

end TagBody

namespace Lexeme

/-- The pieces of lexemes as they are printed, behind a text or not. -/
def pieces (afterText : Bool) : List Lexeme → List Piece
  | [] => []
  | text content :: ls =>
    (if afterText then [.tag ⟨false, ['!']⟩] else []) ++ .text content.toList :: pieces true ls
  | tag kind name :: ls => .tag (.printed kind name) :: pieces false ls

theorem tiling_pieces {ls : List Lexeme} (h : AllPrintable true ls) :
    ∀ afterText, Piece.Tiling (pieces afterText ls) := by
  induction ls with
  | nil => exact fun _ => trivial
  | cons l ls ih =>
    intro afterText
    cases l with
    | tag kind name => exact ⟨TagBody.wellFormed_printed h.1, ih h.2 false⟩
    | text content =>
      obtain ⟨⟨hne, hopen, hlast⟩, hmore⟩ := h
      have hfollows : Piece.Follows content.toList (pieces true ls) := by
        cases ls with
        | nil => trivial
        | cons l ls =>
          have hbrace : content.toList.getLast? ≠ some '{' := fun h => Bool.noConfusion (hlast h)
          cases l <;> exact hbrace
      have htext : Piece.Tiling (.text content.toList :: pieces true ls) :=
        ⟨by simpa using hne, hopen, hfollows, ih hmore true⟩
      cases afterText with
      | false => exact htext
      | true => exact ⟨⟨by decide, by decide⟩, htext⟩

theorem lexemes_pieces {ls : List Lexeme} (h : AllPrintable true ls)
    (hcomment : ∀ l ∈ ls, l.isComment = false) : ∀ afterText offset,
      Token.lexemes (Piece.tokens offset (pieces afterText ls)) = ls := by
  induction ls with
  | nil => exact fun _ _ => rfl
  | cons l ls ih =>
    obtain ⟨hl, hls⟩ := List.forall_mem_cons.1 hcomment
    intro afterText offset
    cases l with
    | tag kind name =>
      have hlexeme : ((TagBody.printed kind name).token offset).lexeme = .tag kind name := by
        rw [TagBody.token, TagBody.classify_printed h.1, String.ofList_toList, Token.lexeme]
      rw [pieces, Piece.tokens, Piece.token, Token.lexemes_cons (by rwa [hlexeme]), hlexeme,
        ih h.2 hls]
    | text content =>
      have htext (offset : Nat) : Token.lexemes
          (Piece.tokens offset (.text content.toList :: pieces true ls)) = .text content :: ls := by
        rw [Piece.tokens, Token.lexemes_cons rfl, ih h.2 hls, Piece.token, Token.lexeme,
          String.ofList_toList]
      cases afterText with
      | false => exact htext offset
      | true => exact htext _

end Lexeme

namespace Node

theorem source_printed (kind : TagKind) (hkind : kind ≠ .unescapedVariable) (name : String) :
    (TagBody.printed kind name).source = printTag kind.printedSigil name := by
  simp [TagBody.source, TagBody.printed, printTag, hkind]

theorem source_printed_open (inverted : Bool) (name : String) :
    (TagBody.printed (openKind inverted) name).source = printTag (openSigil inverted) name := by
  cases inverted
  case true | false => exact source_printed _ TagKind.noConfusion name

theorem allSource_pieces : ∀ (ns : List Node) (afterText : Bool) {rest : List Lexeme},
    (∀ b, Lexeme.pieces b rest = Lexeme.pieces false rest) →
      Piece.allSource (Lexeme.pieces afterText (allLexemes ns ++ rest)) =
        printFrom afterText ns ++ Piece.allSource (Lexeme.pieces false rest)
  | [], afterText, rest, hrest => by
    rw [allLexemes, List.nil_append, hrest, printFrom, List.nil_append]
  | .text content :: ns, afterText, rest, hrest => by
    have hmore := allSource_pieces ns true hrest
    cases afterText <;>
      simp [allLexemes, lexemes, Lexeme.pieces, hmore, printFrom, Piece.source, TagBody.source,
        emptyComment]
  | .interpolation name true :: ns, _, _, hrest => by
    simp [allLexemes, lexemes, Lexeme.pieces, allSource_pieces ns false hrest, printFrom, print,
      Piece.source, source_printed, TagKind.printedSigil]
  | .interpolation name false :: ns, _, _, hrest => by
    simp [allLexemes, lexemes, Lexeme.pieces, allSource_pieces ns false hrest, printFrom, print,
      Piece.source, TagBody.source, TagBody.printed, TagKind.printedSigil]
  | .inclusion name :: ns, _, _, hrest => by
    simp [allLexemes, lexemes, Lexeme.pieces, allSource_pieces ns false hrest, printFrom, print,
      Piece.source, source_printed, TagKind.printedSigil]
  | .block name inverted children :: ns, _, rest, hrest => by
    have hclose (b : Bool) : Lexeme.pieces b (.tag .sectionClose name :: (allLexemes ns ++ rest)) =
        Lexeme.pieces false (.tag .sectionClose name :: (allLexemes ns ++ rest)) := rfl
    have hchildren := allSource_pieces children false hclose
    simp [allLexemes, lexemes, Lexeme.pieces, hchildren, allSource_pieces ns false hrest, printFrom,
      print, Piece.source, source_printed, source_printed_open, TagKind.printedSigil]

theorem ofSource_source {nodes : List Node} (h : AllPrintable true nodes) :
    ofSource (source nodes) = .ok nodes := by
  have hlexemes := (allPrintable_iff_lexemes true nodes).1 h
  have htokens := Lexeme.lexemes_pieces hlexemes (isComment_of_mem_allLexemes nodes) false 0
  have hsource : Piece.allSource (Lexeme.pieces false (allLexemes nodes ++ [])) =
      printFrom false nodes ++ [] := allSource_pieces nodes false fun _ => rfl
  rw [List.append_nil, List.append_nil] at hsource
  refine ofSource_eq_ok_iff.2 ⟨_, ?_, ofTokens_of_lexemes htokens.symm⟩
  rw [tokenize, source, String.toList_ofList, ← hsource,
    (Lexeme.tiling_pieces hlexemes false).scan_eq]

end Node

namespace Template

theorem exists_compile_of_allPrintable {nodes : List Node} (h : Node.AllPrintable true nodes) :
    ∃ t, compile (Node.source nodes) = .ok t ∧ t.nodes = nodes :=
  ⟨⟨_, nodes, Node.ofSource_source h⟩, compile_eq_ok_iff.2 rfl, rfl⟩

theorem allPrintable_of_compile {source : String} {t : Template} (h : compile source = .ok t) :
    Node.AllPrintable true t.nodes :=
  Node.allPrintable_of_ofSource (ofSource_of_compile h)

/-- What the nodes of a template are printed as compiles to these nodes again, and exactly the
printable nodes are those of some template. -/
theorem compile_print :
    (∀ (source : String) (t : Template), compile source = .ok t →
      ∃ u, compile (Node.source t.nodes) = .ok u ∧ u.nodes = t.nodes) ∧
      ∀ nodes, (∃ source t, compile source = .ok t ∧ t.nodes = nodes) ↔
        Node.AllPrintable true nodes := by
  refine ⟨fun source t h => ?_, fun nodes => ⟨?_, fun h => ?_⟩⟩
  · exact exists_compile_of_allPrintable (allPrintable_of_compile h)
  · rintro ⟨source, t, h, rfl⟩
    exact allPrintable_of_compile h
  · obtain ⟨t, ht, hnodes⟩ := exists_compile_of_allPrintable h
    exact ⟨Node.source nodes, t, ht, hnodes⟩

/-- A comment leaves two texts side by side, names keep braces that do not close their tags, and a
brace ends the template. -/
theorem compile_print_comment_and_braces :
    ∃ t u,
      compile "a\x7b\x7b!\x7d\x7db\x7b\x7b\x7bx\x7d\x7d \x7d\x7d\x7d\x7b\x7b \x7by\x7d\x7d\x7b" =
        .ok t ∧
      t.nodes = [.text "a", .text "b", .interpolation "x\x7d\x7d" false,
        .interpolation "\x7by" true, .text "\x7b"] ∧
      compile (Node.source t.nodes) = .ok u ∧ u.nodes = t.nodes := by
  have ht : Node.ofSource
      "a\x7b\x7b!\x7d\x7db\x7b\x7b\x7bx\x7d\x7d \x7d\x7d\x7d\x7b\x7b \x7by\x7d\x7d\x7b" =
      .ok [.text "a", .text "b", .interpolation "x\x7d\x7d" false, .interpolation "\x7by" true,
        .text "\x7b"] := by cbv
  have hcompile := compile_eq_ok_iff.2 (rfl : Template.source ⟨_, _, ht⟩ = _)
  obtain ⟨u, hu, hnodes⟩ := compile_print.1 _ _ hcompile
  exact ⟨⟨_, _, ht⟩, u, hcompile, rfl, hu, hnodes⟩

end Template

end Logicless

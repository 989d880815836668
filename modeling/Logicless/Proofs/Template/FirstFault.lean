import Logicless.Proofs.Template.Compilation
import Logicless.Proofs.Template.Framing
import Logicless.Proofs.Template.Seam
import Logicless.Template.Fault

namespace Logicless

open Text

namespace TagBody

theorem read?_eq_none_iff {cs : List Char} : read? cs = none ↔ Unclosed cs := by
  unfold read?
  split
  · rw [Option.map_eq_none_iff, cut?_eq_none_iff, Unclosed]
  · next h => rw [Option.map_eq_none_iff, cut?_eq_none_iff, Unclosed.eq_2 _ h]

theorem getLast?_source (b : TagBody) : b.source.getLast? = some '}' := by
  cases h : b.triple with
  | true => rw [source, if_pos h, List.getLast?_append]; rfl
  | false => rw [source, if_neg (by simp [h]), List.getLast?_append]; rfl

end TagBody

namespace Token

theorem scan_of_unclosed {inner : List Char} (h : TagBody.Unclosed inner) (offset : Nat) :
    scan offset (openMark ++ inner) = .error ⟨offset⟩ := by
  have hcut : cut? openMark ([] ++ openMark ++ inner) = some ([], inner) :=
    cut?_append (by decide) (by decide) inner
  exact scan_of_read?_eq_none hcut (TagBody.read?_eq_none_iff.2 h) offset

end Token

namespace Piece

theorem exists_tiling_of_scan_error {offset : Nat} {cs : List Char} {e : ScanError}
    (h : Token.scan offset cs = .error e) :
    ∃ ps inner, Tiling ps ∧ (allSource ps).getLast? ≠ some '{' ∧
      cs = allSource ps ++ (openMark ++ inner) ∧ TagBody.Unclosed inner ∧
        e.offset = offset + byteLength (allSource ps) := by
  fun_induction Token.scan offset cs
  case case1 => cases h
  case case2 offset cs before inner hcut start hread =>
    cases h
    have hmark := not_infix_of_cut? (by decide) hcut
    obtain ⟨hopen, hlast⟩ := not_infix_openMark_iff.1 hmark
    have hsource := allSource_ofText before
    refine ⟨ofText before, inner, .ofText hopen, ?_, ?_, TagBody.read?_eq_none_iff.1 hread, ?_⟩
    · rwa [hsource]
    · rw [hsource, eq_of_cut? hcut, List.append_assoc]
    · rw [hsource]
  case case3 offset cs before inner hcut start body rest hread ih =>
    cases hmore : Token.scan (start + byteLength body.source) rest with
    | ok more =>
      rw [hmore] at h
      cases h
    | error e' =>
      rw [hmore] at h
      cases h
      obtain ⟨ps, unread, hps, hlast, rfl, hunclosed, hoffset⟩ := ih hmore
      have hmark := not_infix_of_cut? (by decide) hcut
      have hsource : allSource (ofText before ++ .tag body :: ps) =
          before ++ (body.source ++ allSource ps) := allSource_ofText_append _ _
      refine ⟨ofText before ++ .tag body :: ps, unread, .ofText_append hmark ⟨.of_read? hread, hps⟩,
        ?_, ?_, hunclosed, ?_⟩
      · rw [hsource, List.getLast?_append, List.getLast?_append, body.getLast?_source]
        cases hps : (allSource ps).getLast? with
        | none => simp
        | some c => simpa [hps] using hlast
      · rw [hsource, eq_of_cut? hcut, List.append_assoc, TagBody.source_of_read? hread]
        simp only [List.append_assoc]
      · rw [hsource, hoffset, byteLength_append, byteLength_append]
        simp only [start]
        omega

end Piece

theorem tokenize_eq_error_iff {source : String} {offset : Nat} :
    tokenize source = .error ⟨offset⟩ ↔ UnterminatedAt source offset := by
  constructor
  · intro h
    obtain ⟨ps, inner, hps, hlast, hsource, hunclosed, hoffset⟩ :=
      Piece.exists_tiling_of_scan_error h
    refine ⟨String.ofList (Piece.allSource ps), String.ofList inner, ?_, ?_,
      ⟨Piece.tokens 0 ps, ?_⟩, ?_, ?_⟩
    · rw [← String.toList_inj, hsource]
      simp [openMark]
    · rw [utf8ByteSize_ofList]
      exact (hoffset.trans (Nat.zero_add _)).symm
    · rw [tokenize, String.toList_ofList]
      exact hps.scan_eq 0
    · rwa [String.toList_ofList]
    · rwa [String.toList_ofList]
  · rintro ⟨before, inner, rfl, rfl, ⟨tokens, htokens⟩, hlast, hunclosed⟩
    have hinner : tokenize ("\x7b\x7b" ++ inner) = .error ⟨0⟩ := by
      rw [tokenize, String.toList_append]
      exact Token.scan_of_unclosed hunclosed 0
    have happend := tokenize_append htokens (b := "\x7b\x7b" ++ inner) fun h => hlast h.1
    rw [String.append_assoc, happend, hinner]
    change Except.error (ScanError.shift before.utf8ByteSize ⟨0⟩) = _
    rw [ScanError.shift, Nat.zero_add]

namespace Draft

def sections (d : Draft) : List (String × Nat) :=
  d.opened.map fun s => (s.name, s.offset)

theorem sections_of_read {d d' : Draft} {token : Token} (h : d.read token = .ok d') :
    d'.sections = token.toggle d.sections := by
  cases token with
  | text content =>
    cases h
    rfl
  | tag kind name span =>
    cases kind with
    | escapedVariable | unescapedVariable | inclusion | comment | sectionOpen |
      invertedSectionOpen =>
      cases h
      rfl
    | sectionClose =>
      obtain ⟨opened, before⟩ := d
      cases opened with
      | nil => cases h
      | cons s opened =>
        change leave ⟨s :: opened, before⟩ name span.start = .ok d' at h
        by_cases hname : s.name = name
        · subst hname
          cases (leave_self ..).symm.trans h
          rfl
        · cases (leave_of_ne hname ..).symm.trans h

theorem sections_of_readAll {d d' : Draft} {tokens : List Token}
    (h : d.readAll tokens = .ok d') : d'.sections = tokens.foldl Token.toggle d.sections := by
  induction tokens generalizing d with
  | nil =>
    cases h
    rfl
  | cons token tokens ih =>
    rw [readAll] at h
    cases hread : d.read token with
    | error e =>
      rw [hread] at h
      cases h
    | ok next =>
      rw [hread] at h
      rw [List.foldl_cons, ← sections_of_read hread]
      exact ih h

theorem leave_eq_error_iff {d : Draft} {name : String} {offset : Nat} {e : NestingError} :
    d.leave name offset = .error e ↔
      e = ⟨.unbalanced, name, offset⟩ ∧ d.sections.head?.map Prod.fst ≠ some name := by
  obtain ⟨opened, before⟩ := d
  cases opened with
  | nil => simp [leave, sections, eq_comm]
  | cons s opened =>
    by_cases hname : s.name = name
    · subst hname
      rw [leave_self]
      simp [sections]
    · rw [leave_of_ne hname, Except.error.injEq, eq_comm]
      simp [sections, hname]

theorem read_eq_error_iff {d : Draft} {token : Token} {e : NestingError} :
    d.read token = .error e ↔
      ∃ name span, token = .tag .sectionClose name span ∧ e = ⟨.unbalanced, name, span.start⟩ ∧
        d.sections.head?.map Prod.fst ≠ some name := by
  constructor
  · intro h
    cases token with
    | text content => cases h
    | tag kind name span =>
      cases kind with
      | escapedVariable | unescapedVariable | inclusion | comment | sectionOpen |
        invertedSectionOpen => cases h
      | sectionClose => exact ⟨name, span, rfl, leave_eq_error_iff.1 h⟩
  · rintro ⟨name, span, rfl, h⟩
    exact leave_eq_error_iff.2 h

/-- Where reading fails, it is one token that cannot be read, and all before it can. -/
theorem exists_read_eq_error {d : Draft} {tokens : List Token} {e : NestingError}
    (h : d.readAll tokens = .error e) :
    ∃ before token after next, tokens = before ++ token :: after ∧
      d.readAll before = .ok next ∧ next.read token = .error e := by
  induction tokens generalizing d with
  | nil => cases h
  | cons token tokens ih =>
    cases hread : d.read token with
    | error e' =>
      rw [readAll, hread] at h
      cases h
      exact ⟨[], token, tokens, d, rfl, rfl, hread⟩
    | ok d' =>
      rw [readAll, hread] at h
      obtain ⟨before, bad, after, next, rfl, hbefore, hbad⟩ := ih h
      refine ⟨token :: before, bad, after, next, rfl, ?_, hbad⟩
      rw [readAll, hread]
      exact hbefore

end Draft

namespace Token

theorem openSections_of_readAll {tokens : List Token} {d : Draft}
    (h : Draft.empty.readAll tokens = .ok d) : openSections tokens = d.sections :=
  (Draft.sections_of_readAll h).symm

theorem Balanced.of_readAll {tokens : List Token} {d : Draft}
    (h : Draft.empty.readAll tokens = .ok d) : Balanced tokens := by
  rintro before name span after rfl hunmatched
  rw [Draft.readAll_append] at h
  cases hbefore : Draft.empty.readAll before with
  | error e =>
    rw [hbefore] at h
    cases h
  | ok d' =>
    rw [Unmatched, openSections_of_readAll hbefore] at hunmatched
    have hread := Draft.read_eq_error_iff.2 ⟨name, span, rfl, rfl, hunmatched⟩
    rw [hbefore] at h
    change (d'.read _).bind _ = _ at h
    rw [hread] at h
    cases h

theorem exists_firstUnmatched_of_readAll {tokens : List Token} {e : NestingError}
    (h : Draft.empty.readAll tokens = .error e) :
    e.fault = .unbalanced ∧ FirstUnmatched tokens e.name e.offset := by
  obtain ⟨before, token, after, d, rfl, hbefore, hread⟩ := Draft.exists_read_eq_error h
  obtain ⟨name, span, rfl, rfl, hunmatched⟩ := Draft.read_eq_error_iff.1 hread
  refine ⟨rfl, before, span, after, rfl, rfl, ?_, .of_readAll hbefore⟩
  rwa [Unmatched, openSections_of_readAll hbefore]

theorem FirstUnmatched.not_balanced {tokens : List Token} {name : String} {offset : Nat}
    (h : FirstUnmatched tokens name offset) : ¬ Balanced tokens := by
  obtain ⟨before, span, after, heq, -, hunmatched, -⟩ := h
  exact fun hbalanced => hbalanced before name span after heq hunmatched

theorem Balanced.exists_readAll {tokens : List Token} (h : Balanced tokens) :
    ∃ d, Draft.empty.readAll tokens = .ok d := by
  cases hread : Draft.empty.readAll tokens with
  | ok d => exact ⟨d, rfl⟩
  | error e => exact ((exists_firstUnmatched_of_readAll hread).2.not_balanced h).elim

theorem FirstUnmatched.readAll_eq {tokens : List Token} {name : String} {offset : Nat}
    (h : FirstUnmatched tokens name offset) :
    Draft.empty.readAll tokens = .error ⟨.unbalanced, name, offset⟩ := by
  obtain ⟨before, span, after, rfl, rfl, hunmatched, hbalanced⟩ := h
  obtain ⟨d, hd⟩ := hbalanced.exists_readAll
  rw [Unmatched, openSections_of_readAll hd] at hunmatched
  have hread := Draft.read_eq_error_iff.2 ⟨name, span, rfl, rfl, hunmatched⟩
  rw [Draft.readAll_append, hd]
  change (d.read _).bind _ = _
  rw [hread]
  rfl

end Token

theorem Draft.finish_eq_unclosed_iff {d : Draft} {e : NestingError} :
    d.finish = .error e ↔
      e.fault = .unclosed ∧ d.sections.head? = some (e.name, e.offset) := by
  obtain ⟨opened, before⟩ := d
  obtain ⟨fault, name, offset⟩ := e
  cases opened with
  | nil => simp [finish, sections]
  | cons s opened => simp [finish, sections, eq_comm]

theorem Draft.exists_finish_eq_ok_iff {d : Draft} :
    (∃ nodes, d.finish = .ok nodes) ↔ d.sections = [] := by
  obtain ⟨opened, before⟩ := d
  cases opened with
  | nil => simp [finish, sections]
  | cons s opened => simp [finish, sections]

namespace Node

theorem ofTokens_cases (tokens : List Token) :
    (∃ d, ofTokens tokens = Draft.finish d ∧ Token.Balanced tokens ∧
        Token.openSections tokens = d.sections) ∨
      ∃ name offset, ofTokens tokens = .error ⟨.unbalanced, name, offset⟩ ∧
        Token.FirstUnmatched tokens name offset := by
  rw [ofTokens_eq, Draft.complete]
  cases hread : Draft.empty.readAll tokens with
  | ok d => exact .inl ⟨d, rfl, .of_readAll hread, Token.openSections_of_readAll hread⟩
  | error e =>
    obtain ⟨fault, name, offset⟩ := e
    obtain ⟨hfault, hunmatched⟩ := Token.exists_firstUnmatched_of_readAll hread
    cases hfault
    exact .inr ⟨name, offset, rfl, hunmatched⟩

theorem ofTokens_eq_unbalanced_iff {tokens : List Token} {name : String} {offset : Nat} :
    ofTokens tokens = .error ⟨.unbalanced, name, offset⟩ ↔
      Token.FirstUnmatched tokens name offset := by
  constructor
  · intro h
    rcases ofTokens_cases tokens with ⟨d, hd, -, -⟩ | ⟨name', offset', heq, hunmatched⟩
    · cases (Draft.finish_eq_unclosed_iff.1 (hd.symm.trans h)).1
    · cases heq.symm.trans h
      exact hunmatched
  · intro h
    rw [ofTokens_eq, Draft.complete, h.readAll_eq]
    rfl

theorem ofTokens_eq_unclosed_iff {tokens : List Token} {name : String} {offset : Nat} :
    ofTokens tokens = .error ⟨.unclosed, name, offset⟩ ↔
      Token.Balanced tokens ∧ (Token.openSections tokens).head? = some (name, offset) := by
  rcases ofTokens_cases tokens with ⟨d, hd, hbalanced, hopen⟩ | ⟨name', offset', heq, hunmatched⟩
  · simp [hd, Draft.finish_eq_unclosed_iff, hbalanced, hopen]
  · simp [heq, hunmatched.not_balanced]

theorem exists_ofTokens_eq_ok_iff {tokens : List Token} :
    (∃ nodes, ofTokens tokens = .ok nodes) ↔
      Token.Balanced tokens ∧ Token.openSections tokens = [] := by
  rcases ofTokens_cases tokens with ⟨d, hd, hbalanced, hopen⟩ | ⟨name', offset', heq, hunmatched⟩
  · simp [hd, Draft.exists_finish_eq_ok_iff, hbalanced, hopen]
  · simp [heq, hunmatched.not_balanced]

theorem ofSource_eq_scan_iff {source : String} {e : ScanError} :
    ofSource source = .error (.scan e) ↔ tokenize source = .error e := by
  cases h : tokenize source with
  | error e' => simp [ofSource_of_scanError h]
  | ok tokens =>
    rw [ofSource_of_tokens h, mapError_eq_error_iff]
    simp

theorem ofSource_eq_nesting_iff {source : String} {e : NestingError} :
    ofSource source = .error (.nesting e) ↔
      ∃ tokens, tokenize source = .ok tokens ∧ ofTokens tokens = .error e := by
  cases h : tokenize source with
  | error e' => simp [ofSource_of_scanError h]
  | ok tokens =>
    rw [ofSource_of_tokens h, mapError_eq_error_iff]
    simp

end Node

theorem exists_tokenize_eq_ok_iff {source : String} :
    (∃ tokens, tokenize source = .ok tokens) ↔ ∀ offset, ¬ UnterminatedAt source offset := by
  constructor
  · rintro ⟨tokens, h⟩ offset hat
    cases h.symm.trans (tokenize_eq_error_iff.2 hat)
  · intro h
    cases htokens : tokenize source with
    | ok tokens => exact ⟨tokens, rfl⟩
    | error e => exact (h e.offset (tokenize_eq_error_iff.1 htokens)).elim

/-- A source fails at the tag that is opened and never closed, wherever its sections fail to nest.
Where there is no such tag it fails at the first close tag that does not match, whatever follows;
where all match, at the innermost section that stays open; and where none does, it compiles. -/
theorem Template.compile_outcome (source : String) :
    (∀ offset, compile source = .error (.scan ⟨offset⟩) ↔ UnterminatedAt source offset) ∧
      ((∀ offset, ¬ UnterminatedAt source offset) ↔ ∃ tokens, tokenize source = .ok tokens) ∧
      (∀ name offset, compile source = .error (.nesting ⟨.unbalanced, name, offset⟩) ↔
        ∃ tokens, tokenize source = .ok tokens ∧ Token.FirstUnmatched tokens name offset) ∧
      (∀ name offset, compile source = .error (.nesting ⟨.unclosed, name, offset⟩) ↔
        ∃ tokens, tokenize source = .ok tokens ∧ Token.Balanced tokens ∧
          (Token.openSections tokens).head? = some (name, offset)) ∧
      ((∃ t, compile source = .ok t) ↔
        ∃ tokens, tokenize source = .ok tokens ∧ Token.Balanced tokens ∧
          Token.openSections tokens = []) := by
  refine ⟨fun offset => ?_, exists_tokenize_eq_ok_iff.symm, fun name offset => ?_,
    fun name offset => ?_, ?_⟩
  · rw [compile_eq_error_iff, Node.ofSource_eq_scan_iff, tokenize_eq_error_iff]
  · simp only [compile_eq_error_iff, Node.ofSource_eq_nesting_iff, Node.ofTokens_eq_unbalanced_iff]
  · simp only [compile_eq_error_iff, Node.ofSource_eq_nesting_iff, Node.ofTokens_eq_unclosed_iff]
  · simp only [exists_compile_eq_ok_iff, Node.ofSource_eq_ok_iff,
      ← Node.exists_ofTokens_eq_ok_iff]
    constructor
    · rintro ⟨nodes, tokens, htokens, hnodes⟩
      exact ⟨tokens, htokens, nodes, hnodes⟩
    · rintro ⟨tokens, htokens, nodes, hnodes⟩
      exact ⟨nodes, tokens, htokens, hnodes⟩

end Logicless

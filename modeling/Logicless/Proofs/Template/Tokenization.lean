import Logicless.Proofs.Template.Tiling
import Logicless.Proofs.Text.Blank
import Logicless.Proofs.Text.Offset

namespace Logicless

open Text

/-- The kind and the name that double braces hold: behind leading blanks there may be a sigil, and
what is left is trimmed. -/
inductive Reading : List Char → TagKind → List Char → Prop
  | sigil {blanks rest : List Char} {c : Char} {kind : TagKind}
      (hblanks : ∀ b ∈ blanks, isBlank b = true) (hkind : TagKind.ofSigil? c = some kind) :
      Reading (blanks ++ c :: rest) kind (trim rest)
  | plain {blanks rest : List Char} (hblanks : ∀ b ∈ blanks, isBlank b = true)
      (hrest : ∀ c ∈ rest.head?, isBlank c = false ∧ TagKind.ofSigil? c = none) :
      Reading (blanks ++ rest) .escapedVariable (trim rest)

/-- A tag as it is written, with its kind and its name. -/
inductive TagText : List Char → TagKind → List Char → Prop
  | triple {content : List Char} (hclose : ¬ tripleCloseMark <:+: content ++ ['}', '}']) :
      TagText (openMark ++ '{' :: content ++ tripleCloseMark) .unescapedVariable (trim content)
  | double {content name : List Char} {kind : TagKind} (hbrace : content.head? ≠ some '{')
      (hclose : ¬ closeMark <:+: content ++ ['}']) (h : Reading content kind name) :
      TagText (openMark ++ content ++ closeMark) kind name

/-- A token stands for the source from one offset up to another. -/
def Token.Covers (source : String) (start stop : Nat) : Token → Prop
  | .text content => StandsAt source start stop content
  | .tag _ _ span => span = ⟨start, stop⟩ ∧ ∃ slice, StandsAt source start stop slice

def Tiles (source : String) : Nat → List Token → Prop
  | offset, [] => offset = source.utf8ByteSize
  | offset, token :: tokens => ∃ stop, token.Covers source offset stop ∧ Tiles source stop tokens

/-- A text is not empty and opens no tag, and a tag says what is written in its span. -/
def Token.Fits (source : String) : Token → Prop
  | .text content => content ≠ "" ∧ ¬ openMark <:+: content.toList
  | .tag kind name span =>
    ∀ slice, StandsAt source span.start span.stop slice → TagText slice.toList kind name.toList

/-- Two texts never meet, and a text before a tag does not end in a brace. -/
def Token.MayPrecede : Token → Token → Prop
  | .text _, .text _ => False
  | .text content, .tag _ _ _ => content.toList.getLast? ≠ some '{'
  | .tag _ _ _, _ => True

/-- The tokens of the source from the offset on, as the grammar has them. -/
structure Tokenization (source : String) (offset : Nat) (tokens : List Token) : Prop where
  tiles : Tiles source offset tokens
  fits : ∀ token ∈ tokens, token.Fits source
  separated : ∀ a b, [a, b] <:+: tokens → a.MayPrecede b

theorem isBlank_of_ofSigil? {c : Char} {kind : TagKind} (h : TagKind.ofSigil? c = some kind) :
    isBlank c = false := by
  unfold TagKind.ofSigil? at h
  split at h <;> first | decide | cases h

theorem Reading.classify_eq {content name : List Char} {kind : TagKind}
    (h : Reading content kind name) : TagBody.classify ⟨false, content⟩ = (kind, name) := by
  cases h with
  | @sigil blanks rest c kind hblanks hkind =>
    have htrim : trimStart (blanks ++ c :: rest) = c :: rest := by
      apply trimStart_append hblanks
      rintro d hd
      cases Option.some.inj hd
      exact isBlank_of_ofSigil? hkind
    simp [TagBody.classify, htrim, hkind]
  | @plain blanks rest hblanks hrest =>
    have htrim := trimStart_append hblanks fun c hc => (hrest c hc).1
    cases rest with
    | nil =>
      simp only [TagBody.classify, htrim]
      rfl
    | cons c rest => simp [TagBody.classify, htrim, (hrest c rfl).2]

theorem reading_classify (content : List Char) :
    Reading content (TagBody.classify ⟨false, content⟩).1
      (TagBody.classify ⟨false, content⟩).2 := by
  obtain ⟨blanks, hcontent, hblanks, hhead⟩ := exists_eq_append_trimStart content
  -- `classify` is computed by the reading itself, once that is found.
  suffices h : ∃ kind name, Reading content kind name by
    obtain ⟨kind, name, h⟩ := h
    rwa [h.classify_eq]
  rw [hcontent]
  cases hrest : trimStart content with
  | nil => exact ⟨_, _, .plain hblanks (by simp)⟩
  | cons c rest =>
    cases hkind : TagKind.ofSigil? c with
    | none =>
      refine ⟨_, _, .plain hblanks fun d hd => ?_⟩
      cases Option.some.inj hd
      exact ⟨hhead c (by rw [hrest]; rfl), hkind⟩
    | some kind => exact ⟨_, _, .sigil hblanks hkind⟩

theorem TagText.exists_body {cs name : List Char} {kind : TagKind} (h : TagText cs kind name) :
    ∃ body : TagBody, body.WellFormed ∧ body.source = cs ∧ body.classify = (kind, name) := by
  cases h with
  | @triple content hclose => exact ⟨⟨true, content⟩, occurs_eq_false_iff.2 hclose, rfl, rfl⟩
  | @double content name kind hbrace hclose h =>
    exact ⟨⟨false, content⟩, ⟨hbrace, occurs_eq_false_iff.2 hclose⟩, rfl, h.classify_eq⟩

theorem TagBody.WellFormed.tagText {body : TagBody} (h : body.WellFormed) :
    TagText body.source body.classify.1 body.classify.2 := by
  obtain ⟨triple, content⟩ := body
  cases triple with
  | true => exact .triple (occurs_eq_false_iff.1 h)
  | false => exact .double h.1 (occurs_eq_false_iff.1 h.2) (reading_classify content)

theorem pair_infix_cons_iff {a b c : Token} {tokens : List Token} :
    [a, b] <:+: c :: tokens ↔ (a = c ∧ b ∈ tokens.head?) ∨ [a, b] <:+: tokens := by
  rw [List.infix_cons_iff, List.cons_prefix_cons, List.singleton_prefix_iff_head?_eq_some,
    Option.mem_def]

namespace Tokenization

theorem nil_iff {source : String} {offset : Nat} :
    Tokenization source offset [] ↔ offset = source.utf8ByteSize := by
  constructor
  · exact fun h => h.tiles
  · exact fun h => ⟨h, by simp, by simp⟩

theorem cons_iff {source : String} {offset : Nat} {token : Token} {tokens : List Token} :
    Tokenization source offset (token :: tokens) ↔
      token.Fits source ∧ (∀ next ∈ tokens.head?, token.MayPrecede next) ∧
        ∃ stop, token.Covers source offset stop ∧ Tokenization source stop tokens := by
  constructor
  · intro h
    obtain ⟨stop, hcovers, htiles⟩ := h.tiles
    obtain ⟨hfits, hmore⟩ := List.forall_mem_cons.1 h.fits
    refine ⟨hfits, fun next hnext => ?_, stop, hcovers, htiles, hmore, fun a b hab => ?_⟩
    · exact h.separated _ _ (pair_infix_cons_iff.2 (.inl ⟨rfl, hnext⟩))
    · exact h.separated _ _ (pair_infix_cons_iff.2 (.inr hab))
  · rintro ⟨hfits, hnext, stop, hcovers, h⟩
    refine ⟨⟨stop, hcovers, h.tiles⟩, List.forall_mem_cons.2 ⟨hfits, h.fits⟩, fun a b hab => ?_⟩
    rcases pair_infix_cons_iff.1 hab with ⟨rfl, hb⟩ | hab
    · exact hnext b hb
    · exact h.separated _ _ hab

end Tokenization

namespace Piece

theorem standsAt_source (p : Piece) (before after : String) :
    StandsAt (before ++ (String.ofList p.source ++ after)) before.utf8ByteSize
      (before.utf8ByteSize + byteLength p.source) (String.ofList p.source) := by
  rw [← utf8ByteSize_ofList]
  exact standsAt_append before (String.ofList p.source) after

theorem covers (p : Piece) (before after : String) :
    (p.token before.utf8ByteSize).Covers (before ++ (String.ofList p.source ++ after))
      before.utf8ByteSize (before.utf8ByteSize + byteLength p.source) := by
  cases p with
  | text content => exact standsAt_source (.text content) before after
  | tag body => exact ⟨rfl, _, standsAt_source (.tag body) before after⟩

theorem follows_iff {content : List Char} {ps : List Piece} {offset : Nat} :
    Follows content ps ↔ ∀ next ∈ (tokens offset ps).head?,
      (Token.text (String.ofList content)).MayPrecede next := by
  cases ps with
  | nil => simp [Follows, tokens]
  | cons p ps =>
    cases p with
    | text => simp [Follows, tokens, token, Token.MayPrecede]
    | tag => simp [Follows, tokens, token, TagBody.token, Token.MayPrecede]

theorem fits_text_iff {source : String} {content : List Char} :
    (Token.text (String.ofList content)).Fits source ↔
      content ≠ [] ∧ occurs openMark content = false := by
  rw [Token.Fits, String.toList_ofList, occurs_eq_false_iff, Ne, String.ofList_eq_empty_iff]

theorem Tiling.tokenization {ps : List Piece} (h : Tiling ps) (before : String) :
    Tokenization (before ++ String.ofList (allSource ps)) before.utf8ByteSize
      (tokens before.utf8ByteSize ps) := by
  induction ps generalizing before with
  | nil => rw [tokens, Tokenization.nil_iff, allSource_nil, String.ofList_nil, String.append_empty]
  | cons p ps ih =>
    have hcovers := p.covers before (String.ofList (allSource ps))
    have hmore (hps : Tiling ps) := ih hps (before ++ String.ofList p.source)
    simp only [String.append_assoc, String.utf8ByteSize_append, utf8ByteSize_ofList] at hmore
    rw [allSource_cons, String.ofList_append, tokens, Tokenization.cons_iff]
    cases p with
    | text content =>
      obtain ⟨hne, hopen, hfollows, hps⟩ := h
      exact ⟨fits_text_iff.2 ⟨hne, hopen⟩, follows_iff.1 hfollows, _, hcovers, hmore hps⟩
    | tag body =>
      obtain ⟨hbody, hps⟩ := h
      refine ⟨fun slice hslice => ?_, fun _ _ => trivial, _, hcovers, hmore hps⟩
      have hstands := standsAt_source (.tag body) before (String.ofList (allSource ps))
      rw [hslice.unique hstands, String.toList_ofList, String.toList_ofList]
      exact hbody.tagText

end Piece

theorem Tokenization.exists_tiling {before rest : String} {tokens : List Token}
    (h : Tokenization (before ++ rest) before.utf8ByteSize tokens) :
    ∃ ps, Piece.Tiling ps ∧ Piece.allSource ps = rest.toList ∧
      Piece.tokens before.utf8ByteSize ps = tokens := by
  induction tokens generalizing before rest with
  | nil =>
    have hsize := nil_iff.1 h
    rw [String.utf8ByteSize_append] at hsize
    have hrest : rest = "" := String.utf8ByteSize_eq_zero_iff.1 (by omega)
    exact ⟨[], trivial, by rw [hrest]; rfl, rfl⟩
  | cons token tokens ih =>
    obtain ⟨hfits, hnext, stop, hcovers, hmore⟩ := cons_iff.1 h
    cases token with
    | text content =>
      obtain ⟨after, rfl, rfl⟩ := standsAt_append_iff.1 hcovers
      rw [← String.append_assoc, ← String.utf8ByteSize_append] at hmore
      obtain ⟨ps, hps, hsource, rfl⟩ := ih hmore
      rw [← String.ofList_toList (s := content)] at hfits hnext
      obtain ⟨hne, hopen⟩ := Piece.fits_text_iff.1 hfits
      refine ⟨.text content.toList :: ps, ⟨hne, hopen, Piece.follows_iff.2 hnext, hps⟩, ?_, ?_⟩
      · rw [Piece.allSource_cons, hsource, String.toList_append, Piece.source]
      · rw [Piece.tokens, Piece.token, Piece.source, byteLength_toList, String.ofList_toList,
          String.utf8ByteSize_append]
    | tag kind name span =>
      obtain ⟨rfl, slice, hslice⟩ := hcovers
      obtain ⟨body, hbody, hbodySource, hclassify⟩ := (hfits slice hslice).exists_body
      obtain ⟨after, rfl, rfl⟩ := standsAt_append_iff.1 hslice
      rw [← String.append_assoc, ← String.utf8ByteSize_append] at hmore
      obtain ⟨ps, hps, hsource, rfl⟩ := ih hmore
      refine ⟨.tag body :: ps, ⟨hbody, hps⟩, ?_, ?_⟩
      · rw [Piece.allSource_cons, hsource, String.toList_append, Piece.source, hbodySource]
      · rw [Piece.tokens, Piece.token, Piece.source, TagBody.token, hbodySource, hclassify,
          byteLength_toList, String.ofList_toList, String.utf8ByteSize_append]

theorem tokenization_iff {source : String} {tokens : List Token} :
    Tokenization source 0 tokens ↔ ∃ ps, Piece.Tiling ps ∧
      Piece.allSource ps = source.toList ∧ Piece.tokens 0 ps = tokens := by
  constructor
  · intro h
    have hcovers : Tokenization ("" ++ source) "".utf8ByteSize tokens := by
      rwa [String.empty_append]
    exact hcovers.exists_tiling
  · rintro ⟨ps, hps, hsource, rfl⟩
    have h := hps.tokenization ""
    rwa [String.empty_append, hsource, String.ofList_toList] at h

/-- The tokens of a template are the grammatical sequence that covers its text, and there is no
other such sequence. -/
theorem tokenize_eq_ok_iff (source : String) (tokens : List Token) :
    (tokenize source = .ok tokens ↔ Tokenization source 0 tokens) ∧
      ∀ others, Tokenization source 0 tokens → Tokenization source 0 others →
        others = tokens := by
  have hiff (found : List Token) : tokenize source = .ok found ↔ Tokenization source 0 found := by
    rw [tokenize, Piece.scan_eq_ok_iff, tokenization_iff]
  refine ⟨hiff tokens, fun others h hothers => ?_⟩
  have heq := ((hiff others).2 hothers).symm.trans ((hiff tokens).2 h)
  exact Except.ok.inj heq

end Logicless

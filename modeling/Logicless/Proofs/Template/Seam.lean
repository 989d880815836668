import Logicless.Proofs.Template.Tiling
import Logicless.Proofs.Text.Offset
import Logicless.Template.Shift

namespace Logicless

open Text

theorem Text.BracesMeet.append_left {cs ds es : List Char} (h : BracesMeet ds es) :
    BracesMeet (cs ++ ds) es := by
  refine ⟨?_, h.2⟩
  rw [List.getLast?_append, h.1]
  rfl

namespace Token

@[simp] theorem join_nil (tokens : List Token) : join [] tokens = tokens := by
  cases tokens <;> rfl

@[simp] theorem join_tag_cons (kind : TagKind) (name : String) (span : Span)
    (tokens others : List Token) :
    join (.tag kind name span :: tokens) others = .tag kind name span :: join tokens others := by
  rw [join]
  simp

theorem join_ofText_tag (cs : List Char) (kind : TagKind) (name : String) (span : Span)
    (tokens others : List Token) :
    join (ofText cs ++ .tag kind name span :: tokens) others =
      ofText cs ++ .tag kind name span :: join tokens others := by
  cases cs with
  | nil => exact join_tag_cons kind name span tokens others
  | cons c cs =>
    change join (.text (String.ofList (c :: cs)) :: .tag kind name span :: tokens) others = _
    rw [join, join_tag_cons]
    · rfl
    · simp

@[simp] theorem join_append_tag (tokens others : List Token) (kind : TagKind) (name : String)
    (span : Span) :
    join tokens (.tag kind name span :: others) = tokens ++ .tag kind name span :: others := by
  induction tokens with
  | nil => rfl
  | cons token tokens ih =>
    rw [join, ih, List.cons_append]
    simp

theorem join_ofText (cs ds : List Char) {tokens : List Token}
    (h : ∀ content, tokens.head? ≠ some (.text content)) :
    join (ofText cs) (ofText ds ++ tokens) = ofText (cs ++ ds) ++ tokens := by
  cases cs with
  | nil => exact join_nil _
  | cons c cs =>
    cases ds with
    | nil =>
      rw [List.append_nil]
      cases tokens with
      | nil => rfl
      | cons token tokens =>
        cases token with
        | text content => exact absurd rfl (h content)
        | tag kind name span => exact join_append_tag _ _ _ _ _
    | cons d ds =>
      change [Token.text (String.ofList (c :: cs) ++ String.ofList (d :: ds))] ++ tokens = _
      rw [← String.ofList_append]
      rfl

theorem scan_text_append {cs ds : List Char} (hcs : ¬ openMark <:+: cs)
    (hmeet : ¬ BracesMeet cs ds) (offset : Nat) :
    scan offset (cs ++ ds) = (scan (offset + byteLength cs) ds).map (join (ofText cs)) := by
  cases hcut : cut? openMark ds with
  | none =>
    have hds := cut?_eq_none_iff.1 hcut
    have hnone := cut?_eq_none_iff.2 (not_infix_pair_append hcs hds hmeet)
    rw [scan_of_cut?_eq_none hcut, scan_of_cut?_eq_none hnone]
    have hjoin : join (ofText cs) (ofText ds ++ []) = ofText (cs ++ ds) ++ [] :=
      join_ofText cs ds (by simp)
    rw [List.append_nil, List.append_nil] at hjoin
    exact congrArg Except.ok hjoin.symm
  | some cutting =>
    obtain ⟨before, inner⟩ := cutting
    obtain ⟨rfl, hbefore⟩ := (cut?_eq_some_iff (by decide)).1 hcut
    have hmeet' : ¬ BracesMeet cs (before ++ ['{']) := by
      intro h
      refine hmeet ⟨h.1, ?_⟩
      have hhead := h.2
      cases before with
      | nil => rfl
      | cons => exact hhead
    have hmark : ¬ openMark <:+: cs ++ (before ++ openMark.dropLast) :=
      not_infix_pair_append hcs hbefore hmeet'
    rw [← List.append_assoc] at hmark
    have hcut' := cut?_append (by decide) hmark inner
    rw [List.append_assoc, List.append_assoc] at hcut'
    rw [List.append_assoc] at hcut ⊢
    cases hread : TagBody.read? inner with
    | none =>
      rw [scan_of_read?_eq_none hcut' hread, scan_of_read?_eq_none hcut hread, byteLength_append,
        Nat.add_assoc]
      rfl
    | some reading =>
      obtain ⟨body, rest⟩ := reading
      rw [scan_of_read?_eq_some hcut' hread, scan_of_read?_eq_some hcut hread, byteLength_append,
        ← Nat.add_assoc]
      cases scan (offset + byteLength cs + byteLength before + byteLength body.source) rest with
      | error e => rfl
      | ok tokens => exact congrArg Except.ok (join_ofText cs before (by simp [TagBody.token])).symm

theorem scan_add (bytes offset : Nat) (cs : List Char) :
    scan (offset + bytes) cs =
      ((scan offset cs).map (List.map (shift bytes))).mapError (ScanError.shift bytes) := by
  fun_induction scan offset cs
  case case1 offset cs hcut =>
    rw [scan_of_cut?_eq_none hcut]
    cases cs <;> rfl
  case case2 offset cs before inner hcut start hread =>
    rw [scan_of_read?_eq_none hcut hread, Nat.add_right_comm]
    rfl
  case case3 offset cs before inner hcut start body rest hread ih =>
    have hstart : offset + bytes + byteLength before = start + bytes := Nat.add_right_comm ..
    rw [scan_of_read?_eq_some hcut hread, hstart, Nat.add_right_comm start, ih]
    cases scan (start + byteLength body.source) rest with
    | error e => rfl
    | ok tokens =>
      refine congrArg Except.ok ?_
      rw [List.map_append, List.map_cons]
      cases before <;> simp [ofText, shift, TagBody.token, start, Nat.add_right_comm]

end Token

namespace Piece

/-- The scan passes over the pieces of a tiling and goes on as if it started behind them. -/
theorem Tiling.scan_append {ps : List Piece} (h : Tiling ps) (cs : List Char) :
    ¬ BracesMeet (allSource ps) cs → ∀ offset,
      Token.scan offset (allSource ps ++ cs) =
        (Token.scan (offset + byteLength (allSource ps)) cs).map
          (Token.join (tokens offset ps)) := by
  apply h.induction
  · intro content hopen hmeet offset
    rw [allSource_ofText] at hmeet ⊢
    rw [tokens_ofText, Token.scan_text_append hopen hmeet]
  · intro content body ps hmark hbody _ ih hmeet offset
    rw [allSource_ofText_append, allSource_cons, source] at hmeet ⊢
    have hmore := ih fun h => hmeet h.append_left.append_left
    rw [List.append_assoc, List.append_assoc, Token.scan_tag_append hmark hbody, hmore,
      tokens_ofText_append, byteLength_append, byteLength_append, ← Nat.add_assoc, ← Nat.add_assoc]
    cases Token.scan _ cs with
    | error e => rfl
    | ok others => exact congrArg Except.ok (Token.join_ofText_tag ..).symm

end Piece

/-- Behind a text with tokens, unless braces meet, everything is found that is found in the second
text alone, as many bytes later as the first text has. -/
theorem tokenize_append {a b : String} {tokens : List Token} (h : tokenize a = .ok tokens)
    (hmeet : ¬ BracesMeet a.toList b.toList) :
    tokenize (a ++ b) =
      ((tokenize b).map fun others =>
        Token.join tokens (others.map (Token.shift a.utf8ByteSize))).mapError
          (ScanError.shift a.utf8ByteSize) := by
  obtain ⟨ps, hps, hsource, rfl⟩ := Piece.exists_tiling_of_scan h
  rw [← hsource] at hmeet
  have hscan := hps.scan_append b.toList hmeet 0
  rw [Token.scan_add, hsource, byteLength_toList] at hscan
  rw [tokenize, tokenize, String.toList_append, hscan]
  cases Token.scan 0 b.toList <;> rfl

theorem tokenize_tag {body : TagBody} (h : body.WellFormed) {source : String}
    (hsource : source.toList = body.source) : tokenize source = .ok [body.token 0] := by
  have htiling : Piece.Tiling [.tag body] := ⟨h, trivial⟩
  have hpieces : source.toList = Piece.allSource [.tag body] := by
    rw [hsource, Piece.allSource_cons, Piece.allSource_nil, List.append_nil, Piece.source]
  rw [tokenize, hpieces, htiling.scan_eq]
  rfl

theorem tokenize_splice {a b middle : String} {tokens inner : List Token}
    (ha : tokenize a = .ok tokens) (hlast : a.toList.getLast? ≠ some '{')
    (hmiddle : tokenize middle = .ok inner) (hmeet : ¬ BracesMeet middle.toList b.toList) :
    tokenize (a ++ (middle ++ b)) =
      ((tokenize b).map fun others =>
        Token.join tokens ((Token.join inner (others.map (Token.shift middle.utf8ByteSize))).map
          (Token.shift a.utf8ByteSize))).mapError
            fun e => (e.shift middle.utf8ByteSize).shift a.utf8ByteSize := by
  rw [tokenize_append ha fun h => hlast h.1, tokenize_append hmiddle hmeet]
  cases tokenize b <;> rfl

end Logicless

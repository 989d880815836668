import Mathlib
import Logicless.Proofs.Template.Seam
import Logicless.Proofs.Template.Tokenization
import Logicless.Template.Place

namespace Logicless

open Text

namespace Piece

theorem allSource_append (ps qs : List Piece) :
    allSource (ps ++ qs) = allSource ps ++ allSource qs :=
  List.flatMap_append

theorem tokens_append (offset : Nat) (ps qs : List Piece) :
    tokens offset (ps ++ qs) =
      tokens offset ps ++ tokens (offset + byteLength (allSource ps)) qs := by
  induction ps generalizing offset with
  | nil => rfl
  | cons p ps ih =>
    rw [List.cons_append, tokens, tokens, ih, allSource_cons, byteLength_append, Nat.add_assoc,
      List.cons_append]

theorem map_shift_tokens (bytes offset : Nat) (ps : List Piece) :
    (tokens offset ps).map (Token.shift bytes) = tokens (offset + bytes) ps := by
  induction ps generalizing offset with
  | nil => rfl
  | cons p ps ih =>
    rw [tokens, tokens, List.map_cons, ih, Nat.add_right_comm]
    congr 1
    cases p with
    | text content => rfl
    | tag body => simp [token, TagBody.token, Token.shift, Nat.add_right_comm]

theorem Follows.of_append {content : List Char} {ps qs : List Piece}
    (h : Follows content (ps ++ qs)) :
    Follows content ps := by
  cases ps with
  | nil => trivial
  | cons p ps => cases p <;> exact h

theorem Tiling.of_append {ps qs : List Piece} (h : Tiling (ps ++ qs)) : Tiling ps ∧ Tiling qs := by
  induction ps with
  | nil => exact ⟨trivial, h⟩
  | cons p ps ih =>
    cases p with
    | text content =>
      obtain ⟨hne, hopen, hfollows, hmore⟩ := h
      obtain ⟨hps, hqs⟩ := ih hmore
      exact ⟨⟨hne, hopen, hfollows.of_append, hps⟩, hqs⟩
    | tag body =>
      obtain ⟨hbody, hmore⟩ := h
      obtain ⟨hps, hqs⟩ := ih hmore
      exact ⟨⟨hbody, hps⟩, hqs⟩

theorem Tiling.byteLength_source_pos {p : Piece} {ps : List Piece} (h : Tiling (p :: ps)) :
    0 < byteLength p.source := by
  cases p with
  | text content =>
    obtain ⟨c, cs, rfl⟩ := List.exists_cons_of_ne_nil h.1
    exact Nat.add_pos_left c.utf8Size_pos _
  | tag body => exact body.byteLength_source_pos

theorem place_token (p : Piece) (offset : Nat) :
    (p.token offset).place offset = ⟨offset, offset + byteLength p.source⟩ := by
  cases p with
  | text content => rw [token, Token.place, utf8ByteSize_ofList, source]
  | tag body => rfl

theorem Tiling.bounds_of_mem_placed {ps : List Piece} (h : Tiling ps) {offset : Nat}
    {t : Token × Span} (ht : t ∈ Token.placed offset (tokens offset ps)) :
    offset ≤ t.2.start ∧ t.2.start < t.2.stop ∧
      t.2.stop ≤ offset + byteLength (allSource ps) := by
  induction ps generalizing offset with
  | nil => cases ht
  | cons p ps ih =>
    have hpos := h.byteLength_source_pos
    rw [tokens, Token.placed, place_token] at ht
    rw [allSource_cons, byteLength_append]
    rcases List.mem_cons.1 ht with rfl | ht
    · simp only
      omega
    · have hsplit : Tiling ([p] ++ ps) := h
      obtain ⟨hstart, hlt, hstop⟩ := ih hsplit.of_append.2 ht
      simp only at hstart hstop
      omega

theorem placed_tokens_append (offset : Nat) (ps : List Piece) (more : List Token) :
    Token.placed offset (tokens offset ps ++ more) =
      Token.placed offset (tokens offset ps) ++
        Token.placed (offset + byteLength (allSource ps)) more := by
  induction ps generalizing offset with
  | nil => rfl
  | cons p ps ih =>
    rw [tokens, List.cons_append, Token.placed, Token.placed, place_token, ih, allSource_cons,
      byteLength_append, Nat.add_assoc, List.cons_append]

end Piece

theorem Tiles.covers_of_mem_placed {source : String} {offset : Nat} {tokens : List Token}
    (h : Tiles source offset tokens) {t : Token × Span} (ht : t ∈ Token.placed offset tokens) :
    t.1.Covers source t.2.start t.2.stop := by
  induction tokens generalizing offset with
  | nil => cases ht
  | cons token tokens ih =>
    obtain ⟨stop, hcovers, hmore⟩ := h
    have hplace : token.place offset = ⟨offset, stop⟩ := by
      cases token with
      | text content => rw [Token.place, ← hcovers.stop_eq]
      | tag kind name span => exact hcovers.1
    rw [Token.placed, hplace] at ht
    rcases List.mem_cons.1 ht with rfl | ht
    · exact hcovers
    · exact ih hmore ht

theorem Token.map_fst_placed (offset : Nat) (tokens : List Token) :
    (placed offset tokens).map Prod.fst = tokens := by
  induction tokens generalizing offset with
  | nil => rfl
  | cons token tokens ih => rw [placed, List.map_cons, ih]

namespace Piece

variable {ps qs : List Piece}

theorem Tiling.exists_placed_eq (h : Tiling (ps ++ qs)) :
    ∃ before after, Token.placed 0 (tokens 0 (ps ++ qs)) = before ++ after ∧
      before.map Prod.fst = tokens 0 ps ∧
      after.map Prod.fst = tokens (byteLength (allSource ps)) qs ∧
      (∀ t ∈ before, t.2.start < byteLength (allSource ps) ∧
        t.2.stop ≤ byteLength (allSource ps)) ∧
      ∀ t ∈ after, byteLength (allSource ps) ≤ t.2.start ∧
        byteLength (allSource ps) < t.2.stop := by
  obtain ⟨hps, hqs⟩ := h.of_append
  refine ⟨Token.placed 0 (tokens 0 ps), Token.placed (byteLength (allSource ps))
    (tokens (byteLength (allSource ps)) qs), ?_, Token.map_fst_placed _ _,
    Token.map_fst_placed _ _, fun t ht => ?_, fun t ht => ?_⟩
  · rw [tokens_append, placed_tokens_append, Nat.zero_add]
  · have hbounds := hps.bounds_of_mem_placed ht
    omega
  · have hbounds := hqs.bounds_of_mem_placed ht
    omega

theorem Tiling.upTo_eq (h : Tiling (ps ++ qs)) :
    Token.upTo (byteLength (allSource ps)) (tokens 0 (ps ++ qs)) = tokens 0 ps := by
  obtain ⟨before, after, hplaced, hps, -, hbefore, hafter⟩ := h.exists_placed_eq
  have hkept := List.filter_eq_self.2 fun t ht => decide_eq_true (hbefore t ht).2
  have hdropped : after.filter (fun t => t.2.stop ≤ byteLength (allSource ps)) = [] := by
    rw [List.filter_eq_nil_iff]
    intro t ht
    rw [decide_eq_true_eq]
    exact Nat.not_le.2 (hafter t ht).2
  rw [Token.upTo, hplaced, List.filter_append, hkept, hdropped, List.append_nil, hps]

theorem Tiling.startingFrom_eq (h : Tiling (ps ++ qs)) :
    Token.startingFrom (byteLength (allSource ps)) (tokens 0 (ps ++ qs)) =
      tokens (byteLength (allSource ps)) qs := by
  obtain ⟨before, after, hplaced, -, hqs, hbefore, hafter⟩ := h.exists_placed_eq
  have hkept := List.filter_eq_self.2 fun t ht => decide_eq_true (hafter t ht).1
  have hdropped : before.filter (fun t => byteLength (allSource ps) ≤ t.2.start) = [] := by
    rw [List.filter_eq_nil_iff]
    intro t ht
    rw [decide_eq_true_eq]
    exact Nat.not_le.2 (hbefore t ht).1
  rw [Token.startingFrom, hplaced, List.filter_append, hdropped, hkept, List.nil_append, hqs]

theorem exists_append_of_mem_tokens {kind : TagKind} {name : String} {span : Span} {offset : Nat}
    (h : .tag kind name span ∈ tokens offset ps) :
    ∃ before body after, ps = before ++ .tag body :: after ∧
      span.start = offset + byteLength (allSource before) ∧
      span.stop = span.start + byteLength body.source := by
  induction ps generalizing offset with
  | nil => cases h
  | cons p ps ih =>
    rcases List.mem_cons.1 h with h | h
    · cases p with
      | text content => cases h
      | tag body =>
        cases h
        exact ⟨[], body, ps, rfl, rfl, rfl⟩
    · obtain ⟨before, body, after, rfl, hstart, hstop⟩ := ih h
      refine ⟨p :: before, body, after, rfl, ?_, hstop⟩
      rw [hstart, allSource_cons, byteLength_append, Nat.add_assoc]

theorem exists_append_of_tagBoundary {offset : Nat}
    (h : Token.TagBoundary (tokens 0 ps) offset) :
    ∃ before after, ps = before ++ after ∧ offset = byteLength (allSource before) := by
  obtain ⟨kind, name, span, hmem, hoffset⟩ := h
  obtain ⟨before, body, after, rfl, hstart, hstop⟩ := exists_append_of_mem_tokens hmem
  rw [Nat.zero_add] at hstart
  rcases hoffset with rfl | rfl
  · exact ⟨before, .tag body :: after, rfl, hstart⟩
  · refine ⟨before ++ [.tag body], after, by simp, ?_⟩
    rw [hstop, hstart, allSource_append, byteLength_append]
    simp [source]

end Piece

/-- Where a tag begins or ends, the tokens before that place are those of the source up to there,
and the others those of the rest, as many bytes later as stand before it. -/
theorem tokenize_cut {source : String} {tokens : List Token} {offset : Nat}
    (h : tokenize source = .ok tokens) (hoffset : Token.TagBoundary tokens offset) :
    ∃ front back others, source = front ++ back ∧ front.utf8ByteSize = offset ∧
      tokenize front = .ok (Token.upTo offset tokens) ∧ tokenize back = .ok others ∧
      others.map (Token.shift offset) = Token.startingFrom offset tokens := by
  obtain ⟨ps, hps, hsource, rfl⟩ := Piece.exists_tiling_of_scan h
  obtain ⟨before, after, rfl, rfl⟩ := Piece.exists_append_of_tagBoundary hoffset
  obtain ⟨hbefore, hafter⟩ := hps.of_append
  refine ⟨String.ofList (Piece.allSource before), String.ofList (Piece.allSource after),
    Piece.tokens 0 after, ?_, utf8ByteSize_ofList _, ?_, ?_, ?_⟩
  · rw [← String.ofList_append, ← Piece.allSource_append, hsource, String.ofList_toList]
  · rw [hps.upTo_eq, tokenize, String.toList_ofList, hbefore.scan_eq]
  · rw [tokenize, String.toList_ofList, hafter.scan_eq]
  · rw [hps.startingFrom_eq, Piece.map_shift_tokens, Nat.zero_add]

/-- A source may be cut wherever a tag begins or ends, whatever sections are open there, and two
sources may be put one behind the other unless the first ends in a brace. -/
theorem tokenize_cut_join :
    (∀ (source : String) (tokens : List Token), tokenize source = .ok tokens →
      (∀ t ∈ Token.placed 0 tokens, t.1.Covers source t.2.start t.2.stop) ∧
        ∀ offset, Token.TagBoundary tokens offset →
          ∃ front back others, source = front ++ back ∧ front.utf8ByteSize = offset ∧
            tokenize front = .ok (Token.upTo offset tokens) ∧ tokenize back = .ok others ∧
            others.map (Token.shift offset) = Token.startingFrom offset tokens) ∧
      ∀ (a b : String) (tokens : List Token),
        tokenize a = .ok tokens → a.toList.getLast? ≠ some '{' →
          tokenize (a ++ b) =
            ((tokenize b).map fun others =>
              Token.join tokens (others.map (Token.shift a.utf8ByteSize))).mapError
                (ScanError.shift a.utf8ByteSize) := by
  refine ⟨fun source tokens h => ⟨?_, fun offset hoffset => tokenize_cut h hoffset⟩,
    fun a b tokens h hlast => tokenize_append h fun hmeet => hlast hmeet.1⟩
  have htokens : Tokenization source 0 tokens := tokenization_iff.2 (Piece.exists_tiling_of_scan h)
  exact fun t ht => htokens.tiles.covers_of_mem_placed ht

/-- The cut stands behind a text of two bytes, in an open section and before a triple brace; the
texts on both sides of the seam become one. -/
theorem tokenize_cut_join_within_section :
    (∃ front back others, "é\x7b\x7b#s\x7d\x7dx\x7b\x7b\x7ba\x7d\x7d\x7d" = front ++ back ∧
      front.utf8ByteSize = 9 ∧
      tokenize front = .ok [.text "é", .tag .sectionOpen "s" ⟨2, 8⟩, .text "x"] ∧
      tokenize back = .ok others ∧
      others.map (Token.shift 9) = [.tag .unescapedVariable "a" ⟨9, 16⟩]) ∧
      tokenize ("é\x7b\x7b#s\x7d\x7dx" ++ "y\x7b\x7b/s\x7d\x7d") =
        .ok [.text "é", .tag .sectionOpen "s" ⟨2, 8⟩, .text "xy", .tag .sectionClose "s" ⟨10, 16⟩] ∧
      tokenize ("é\x7b\x7b#s\x7d\x7dx" ++ "y\x7b\x7b/s") = .error ⟨10⟩ := by
  have hsource : tokenize "é\x7b\x7b#s\x7d\x7dx\x7b\x7b\x7ba\x7d\x7d\x7d" =
      .ok [.text "é", .tag .sectionOpen "s" ⟨2, 8⟩, .text "x",
        .tag .unescapedVariable "a" ⟨9, 16⟩] := by cbv
  have ha : tokenize "é\x7b\x7b#s\x7d\x7dx" =
      .ok [.text "é", .tag .sectionOpen "s" ⟨2, 8⟩, .text "x"] := by cbv
  have hb : tokenize "y\x7b\x7b/s\x7d\x7d" =
      .ok [.text "y", .tag .sectionClose "s" ⟨1, 7⟩] := by cbv
  have hbad : tokenize "y\x7b\x7b/s" = .error ⟨1⟩ := by cbv
  obtain ⟨hcut, hjoin⟩ := tokenize_cut_join
  refine ⟨(hcut _ _ hsource).2 9 ⟨.unescapedVariable, "a", ⟨9, 16⟩, by simp, .inl rfl⟩, ?_, ?_⟩
  · rw [hjoin _ _ _ ha (by decide), hb]
    rfl
  · rw [hjoin _ _ _ ha (by decide), hbad]
    rfl

end Logicless

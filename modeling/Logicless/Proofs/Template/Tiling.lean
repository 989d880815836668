import Logicless.Proofs.Text.Cut
import Logicless.Template.Piece

namespace Logicless

open Text

theorem not_infix_openMark_iff {cs : List Char} :
    ¬ openMark <:+: cs ++ ['{'] ↔ ¬ openMark <:+: cs ∧ cs.getLast? ≠ some '{' := by
  have hlast : openMark <:+ cs ++ ['{'] ↔ cs.getLast? = some '{' := by
    change ['{'] ++ ['{'] <:+ cs ++ ['{'] ↔ _
    rw [List.suffix_append_inj_of_length_eq rfl, List.singleton_suffix_iff_getLast?_eq_some]
    exact and_iff_left rfl
  rw [List.infix_concat_iff, hlast, not_or, and_comm]

namespace TagBody

theorem exists_source_eq (b : TagBody) : ∃ inner, b.source = openMark ++ inner := by
  cases h : b.triple with
  | true => exact ⟨'{' :: b.content ++ tripleCloseMark, by simp [source, h]⟩
  | false => exact ⟨b.content ++ closeMark, by simp [source, h]⟩

theorem byteLength_source_pos (b : TagBody) : 0 < byteLength b.source := by
  obtain ⟨inner, hinner⟩ := b.exists_source_eq
  rw [hinner, byteLength_append]
  exact Nat.add_pos_left (by decide) _

theorem read?_of_head_ne {cs : List Char} (h : cs.head? ≠ some '{') :
    read? cs = (cut? closeMark cs).map fun (content, rest) => (⟨false, content⟩, rest) := by
  unfold read?
  split
  · exact absurd rfl h
  · rfl

theorem WellFormed.of_read? {cs rest : List Char} {b : TagBody} (h : read? cs = some (b, rest)) :
    b.WellFormed := by
  unfold read? at h
  split at h
  · obtain ⟨⟨content, after⟩, hcut, heq⟩ := Option.map_eq_some_iff.1 h
    cases heq
    exact occurs_eq_false_iff.2 (not_infix_of_cut? (by decide) hcut)
  · next hbrace =>
    obtain ⟨⟨content, after⟩, hcut, heq⟩ := Option.map_eq_some_iff.1 h
    cases heq
    refine ⟨fun hhead => ?_, occurs_eq_false_iff.2 (not_infix_of_cut? (by decide) hcut)⟩
    obtain ⟨tail, rfl⟩ := List.head?_eq_some_iff.1 hhead
    exact hbrace _ (eq_of_cut? hcut)

theorem WellFormed.read?_eq {b : TagBody} (h : b.WellFormed) {cs rest : List Char}
    (heq : openMark ++ cs = b.source ++ rest) : read? cs = some (b, rest) := by
  obtain ⟨triple, content⟩ := b
  cases triple with
  | true =>
    have hcs : cs = '{' :: (content ++ tripleCloseMark ++ rest) := by
      simpa [source, openMark] using heq
    have hcut := cut?_append (by decide) (occurs_eq_false_iff.1 h) rest
    rw [hcs]
    simp only [read?, hcut, Option.map_some]
  | false =>
    have hcs : cs = content ++ closeMark ++ rest := by
      simpa [source, openMark] using heq
    have hhead : cs.head? ≠ some '{' := by
      rw [hcs]
      cases content with
      | nil => exact ne_of_beq_false rfl
      | cons c content => exact h.1
    have hcut := cut?_append (by decide) (occurs_eq_false_iff.1 h.2) rest
    rw [read?_of_head_ne hhead, hcs, hcut, Option.map_some]

end TagBody

namespace Piece

def ofText (cs : List Char) : List Piece :=
  if cs.isEmpty then [] else [.text cs]

theorem allSource_ofText_append (cs : List Char) (ps : List Piece) :
    allSource (ofText cs ++ ps) = cs ++ allSource ps := by
  cases cs <;> rfl

theorem tokens_ofText_append (offset : Nat) (cs : List Char) (ps : List Piece) :
    tokens offset (ofText cs ++ ps) =
      Token.ofText cs ++ tokens (offset + byteLength cs) ps := by
  cases cs <;> rfl

theorem allSource_ofText (cs : List Char) : allSource (ofText cs) = cs := by
  cases cs <;> simp [ofText, source]

theorem tokens_ofText (offset : Nat) (cs : List Char) :
    tokens offset (ofText cs) = Token.ofText cs := by
  cases cs <;> rfl

theorem Tiling.ofText {cs : List Char} (h : ¬ openMark <:+: cs) : Tiling (ofText cs) := by
  cases cs with
  | nil => trivial
  | cons c cs => exact ⟨List.cons_ne_nil c cs, occurs_eq_false_iff.2 h, trivial, trivial⟩

theorem Tiling.ofText_append {cs : List Char} (h : ¬ openMark <:+: cs ++ ['{'])
    {body : TagBody} {ps : List Piece} (hps : Tiling (.tag body :: ps)) :
    Tiling (Piece.ofText cs ++ .tag body :: ps) := by
  obtain ⟨hopen, hlast⟩ := not_infix_openMark_iff.1 h
  cases cs with
  | nil => exact hps
  | cons c cs => exact ⟨List.cons_ne_nil c cs, occurs_eq_false_iff.2 hopen, hlast, hps⟩

end Piece

namespace Token

theorem scan_of_cut?_eq_none {cs : List Char} (h : cut? openMark cs = none) (offset : Nat) :
    scan offset cs = .ok (ofText cs) := by
  rw [scan]
  split
  · rfl
  · next hcut => cases h.symm.trans hcut

theorem scan_of_read?_eq_none {cs before inner : List Char}
    (hcut : cut? openMark cs = some (before, inner)) (hread : TagBody.read? inner = none)
    (offset : Nat) : scan offset cs = .error ⟨offset + byteLength before⟩ := by
  rw [scan]
  split
  · next hnone => cases hcut.symm.trans hnone
  · next hsome =>
    cases hcut.symm.trans hsome
    split
    · rfl
    · next hsome => cases hread.symm.trans hsome

theorem scan_of_read?_eq_some {cs before inner rest : List Char} {body : TagBody}
    (hcut : cut? openMark cs = some (before, inner))
    (hread : TagBody.read? inner = some (body, rest)) (offset : Nat) :
    scan offset cs =
      (scan (offset + byteLength before + byteLength body.source) rest).map fun tokens =>
        ofText before ++ body.token (offset + byteLength before) :: tokens := by
  rw [scan]
  split
  · next hnone => cases hcut.symm.trans hnone
  · next hsome =>
    cases hcut.symm.trans hsome
    split
    · next hnone => cases hread.symm.trans hnone
    · next hsome =>
      cases hread.symm.trans hsome
      rfl

theorem scan_tag_append {before : List Char} (h : ¬ openMark <:+: before ++ ['{'])
    {body : TagBody} (hbody : body.WellFormed) (offset : Nat) (rest : List Char) :
    scan offset (before ++ (body.source ++ rest)) =
      (scan (offset + byteLength before + byteLength body.source) rest).map fun tokens =>
        ofText before ++ body.token (offset + byteLength before) :: tokens := by
  obtain ⟨inner, hinner⟩ := body.exists_source_eq
  have hcut : cut? openMark (before ++ (body.source ++ rest)) = some (before, inner ++ rest) := by
    rw [hinner, List.append_assoc, ← List.append_assoc]
    exact cut?_append (by decide) h _
  have hread : TagBody.read? (inner ++ rest) = some (body, rest) := by
    apply hbody.read?_eq
    rw [hinner, List.append_assoc]
  exact scan_of_read?_eq_some hcut hread offset

end Token

namespace Piece

/-- A tiling goes from tag to tag, with a text before each of them that may be empty, and such a
text is at its end. -/
theorem Tiling.induction {motive : List Piece → Prop}
    (last : ∀ content, ¬ openMark <:+: content → motive (Piece.ofText content))
    (step : ∀ content body ps, ¬ openMark <:+: content ++ ['{'] → body.WellFormed → Tiling ps →
      motive ps → motive (Piece.ofText content ++ .tag body :: ps)) :
    ∀ {ps : List Piece}, Tiling ps → motive ps
  | [], _ => last [] (by decide)
  | [.text []], h => absurd rfl h.1
  | [.text (c :: content)], h => last (c :: content) (occurs_eq_false_iff.1 h.2.1)
  | .text _ :: .text _ :: _, h => h.2.2.1.elim
  | .text [] :: .tag _ :: _, h => absurd rfl h.1
  | .text (c :: content) :: .tag body :: ps, h => by
    obtain ⟨-, hopen, hlast, hbody, hps⟩ := h
    have hmark := not_infix_openMark_iff.2 ⟨occurs_eq_false_iff.1 hopen, hlast⟩
    exact step (c :: content) body ps hmark hbody hps (hps.induction last step)
  | .tag body :: ps, h => step [] body ps (by decide) h.1 h.2 (h.2.induction last step)

theorem Tiling.scan_eq {ps : List Piece} (h : Tiling ps) :
    ∀ offset, Token.scan offset (allSource ps) = .ok (tokens offset ps) := by
  apply h.induction
  · intro content hopen offset
    rw [allSource_ofText, tokens_ofText, Token.scan_of_cut?_eq_none (cut?_eq_none_iff.2 hopen)]
  · intro content body ps hmark hbody _ ih offset
    rw [allSource_ofText_append, allSource_cons, source, Token.scan_tag_append hmark hbody, ih,
      tokens_ofText_append]
    rfl

theorem exists_tiling_of_scan {offset : Nat} {cs : List Char} {found : List Token}
    (h : Token.scan offset cs = .ok found) :
    ∃ ps, Tiling ps ∧ allSource ps = cs ∧ tokens offset ps = found := by
  -- A step of the scan puts a tag, and the text before it if there is any, before the tiling.
  fun_induction Token.scan offset cs generalizing found
  case case1 offset cs hcut =>
    cases h
    exact ⟨ofText cs, .ofText (cut?_eq_none_iff.1 hcut), allSource_ofText cs,
      tokens_ofText offset cs⟩
  case case2 => cases h
  case case3 offset cs before inner hcut start body rest hread ih =>
    cases hmore : Token.scan (start + byteLength body.source) rest with
    | error e =>
      rw [hmore] at h
      cases h
    | ok more =>
      rw [hmore] at h
      cases h
      obtain ⟨ps, hps, hsource, htokens⟩ := ih hmore
      have hmark := not_infix_of_cut? (by decide) hcut
      refine ⟨ofText before ++ .tag body :: ps, .ofText_append hmark ⟨.of_read? hread, hps⟩,
        ?_, ?_⟩
      · rw [allSource_ofText_append, allSource_cons, source, hsource,
          ← TagBody.source_of_read? hread, eq_of_cut? hcut, List.append_assoc]
      · rw [tokens_ofText_append, tokens, token, source, htokens]

theorem start_lt_of_mem_tokens {kind : TagKind} {name : String} {span : Span} {ps : List Piece}
    {offset : Nat} (h : .tag kind name span ∈ tokens offset ps) :
    span.start < offset + byteLength (allSource ps) := by
  induction ps generalizing offset with
  | nil => cases h
  | cons p ps ih =>
    rw [allSource_cons, byteLength_append]
    rcases List.mem_cons.1 h with h | h
    · cases p with
      | text content => cases h
      | tag body =>
        cases h
        have hpos := body.byteLength_source_pos
        simp only [source]
        omega
    · have hrest := ih h
      omega

/-- The scan of a text finds tokens exactly when pieces with these tokens tile the text. -/
theorem scan_eq_ok_iff {offset : Nat} {cs : List Char} {found : List Token} :
    Token.scan offset cs = .ok found ↔
      ∃ ps, Tiling ps ∧ allSource ps = cs ∧ tokens offset ps = found := by
  constructor
  · exact exists_tiling_of_scan
  · rintro ⟨ps, hps, rfl, rfl⟩
    exact hps.scan_eq offset

end Piece

end Logicless

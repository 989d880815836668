import Logicless.Html.Escaped
import Logicless.Proofs.Html.Entity
import Logicless.Render

namespace Logicless.Html

theorem encodeChar_eq_singleton {c : Char} (hamp : c ≠ '&') (hless : c ≠ '<') (hgreater : c ≠ '>')
    (hquote : c ≠ '"') : encodeChar c = [c] := by
  unfold encodeChar
  split
  case h_5 => rfl
  case h_1 => exact absurd rfl hamp
  case h_2 => exact absurd rfl hless
  case h_3 => exact absurd rfl hgreater
  case h_4 => exact absurd rfl hquote

theorem encode_eq_self {cs : List Char} (h : ∀ c ∈ cs, c ∉ ['&', '<', '>', '"']) :
    encode cs = cs := by
  induction cs with
  | nil => rfl
  | cons c cs ih =>
    obtain ⟨hc, hmore⟩ := List.forall_mem_cons.1 h
    simp only [List.mem_cons, List.not_mem_nil, or_false, not_or] at hc
    obtain ⟨hamp, hless, hgreater, hquote⟩ := hc
    rw [encode_cons, ih hmore, encodeChar_eq_singleton hamp hless hgreater hquote]
    rfl

/-- The characters of a text that is escaped. -/
structure Encoded (cs : List Char) : Prop where
  no_markup : ∀ x ∈ ['<', '>', '"'], x ∉ cs
  ampersands : AmpersandsBeginEntities cs

namespace Encoded

theorem encode (cs : List Char) : Encoded (encode cs) :=
  ⟨fun _ hx => not_mem_encode hx cs, .encode cs⟩

theorem of_suffix {as bs : List Char} (h : Encoded bs) (hsuffix : as <:+ bs) : Encoded as where
  no_markup x hx hmem := h.no_markup x hx (hsuffix.subset hmem)
  ampersands rest hrest := h.ampersands rest (hrest.trans hsuffix)

theorem encodeChar_head {c : Char} {cs : List Char} (h : Encoded (c :: cs)) (hc : c ≠ '&') :
    encodeChar c = [c] := by
  have hne {x : Char} (hx : x ∈ ['<', '>', '"']) : c ≠ x := by
    rintro rfl
    exact h.no_markup c hx List.mem_cons_self
  exact encodeChar_eq_singleton hc (hne (by decide)) (hne (by decide)) (hne (by decide))

theorem encode_cons_decode {x : Char} {cs : List Char} (h : Encoded (encodeChar x ++ cs))
    (ih : Encoded cs → Html.encode (decode cs) = cs) :
    Html.encode (x :: decode cs) = encodeChar x ++ cs := by
  rw [encode_cons, ih (h.of_suffix (List.suffix_append (encodeChar x) cs))]

theorem encode_decode {cs : List Char} (h : Encoded cs) : Html.encode (decode cs) = cs := by
  fun_induction decode cs with
  | case1 cs ih => exact encode_cons_decode (x := '&') h ih
  | case2 cs ih => exact encode_cons_decode (x := '<') h ih
  | case3 cs ih => exact encode_cons_decode (x := '>') h ih
  | case4 cs ih => exact encode_cons_decode (x := '"') h ih
  | case5 c cs hamp hless hgreater hquote ih =>
    have hc : c ≠ '&' := by
      rintro rfl
      obtain ⟨entity, hentity, rest, hrest⟩ := h.ampersands cs List.suffix_rfl
      simp only [entities, List.map_cons, List.map_nil, List.mem_cons, List.not_mem_nil,
        or_false] at hentity
      rcases hentity with rfl | rfl | rfl | rfl
      · exact hamp rest rfl (List.cons.inj hrest).2.symm
      · exact hless rest rfl (List.cons.inj hrest).2.symm
      · exact hgreater rest rfl (List.cons.inj hrest).2.symm
      · exact hquote rest rfl (List.cons.inj hrest).2.symm
    rw [encode_cons, ih (h.of_suffix (List.suffix_cons c cs)), h.encodeChar_head hc]
    rfl
  | case6 => rfl

end Encoded

theorem pushEscaped_eq (out : String) (c : Char) :
    pushEscaped out c = out ++ String.ofList (encodeChar c) := by
  unfold pushEscaped
  split
  case h_5 hamp hless hgreater hquote =>
    rw [encodeChar_eq_singleton hamp hless hgreater hquote]
    exact String.push_eq_append c
  all_goals rfl

theorem escapeOnto_eq (out raw : String) : escapeOnto out raw = out ++ escape raw := by
  rw [escapeOnto, escape]
  generalize raw.toList = cs
  induction cs generalizing out with
  | nil => simp
  | cons c cs ih =>
    rw [List.foldl_cons, ih, pushEscaped_eq, encode_cons, String.ofList_append, String.append_assoc]

theorem entities_eq : entities = entityTexts.map String.toList := by
  decide

theorem escaped_iff {text : String} : Escaped text ↔ Encoded text.toList := by
  constructor
  · intro h
    refine ⟨fun x hx hmem => ?_, fun rest hrest => ?_⟩
    · obtain ⟨hless, hgreater, hquote⟩ := h.no_markup x hmem
      simp [hless, hgreater, hquote] at hx
    · obtain ⟨front, hfront⟩ := hrest
      have htext : text = String.ofList front ++ ("&" ++ String.ofList rest) := by
        rw [← String.toList_inj, ← hfront]
        simp
      obtain ⟨entity, hentity, tail, htail⟩ := h.ampersands _ _ htext
      refine ⟨entity.toList, ?_, tail.toList, ?_⟩
      · rw [entities_eq]
        exact List.mem_map_of_mem hentity
      · rw [← String.toList_append, ← htail]
        simp
  · intro h
    refine ⟨fun c hc => ?_, fun before after htext => ?_⟩
    · refine ⟨?_, ?_, ?_⟩ <;> rintro rfl <;> exact h.no_markup _ (by decide) hc
    · have hsuffix : '&' :: after.toList <:+ text.toList := ⟨before.toList, by simp [htext]⟩
      obtain ⟨chars, hchars, tail, htail⟩ := h.ampersands _ hsuffix
      rw [entities_eq] at hchars
      obtain ⟨entity, hentity, rfl⟩ := List.mem_map.1 hchars
      refine ⟨entity, hentity, String.ofList tail, ?_⟩
      simpa [← String.toList_inj] using htail.symm

theorem unescape_escape (raw : String) : unescape (escape raw) = raw := by
  rw [unescape, escape, String.toList_ofList, decode_encode, String.ofList_toList]

theorem escape_eq_self {raw : String} (h : ∀ c ∈ raw.toList, c ∉ ['&', '<', '>', '"']) :
    escape raw = raw := by
  rw [escape, encode_eq_self h, String.ofList_toList]

theorem escaped_escape (raw : String) : Escaped (escape raw) := by
  rw [escaped_iff, escape, String.toList_ofList]
  exact .encode raw.toList

theorem escape_unescape {text : String} (h : Escaped text) : escape (unescape text) = text := by
  rw [escape, unescape, String.toList_ofList, (escaped_iff.1 h).encode_decode, String.ofList_toList]

/-- Escaping adds to the end of an output, part by part, what unescaping reads back, and the texts
that it can add are the ones that look escaped. -/
theorem escape_code (raw more out text : String) :
    (∀ (r : Rendering) (v : Value),
      (r.write (v.shown true)).output = escapeOnto r.output v.output) ∧
    escapeOnto out raw = out ++ escape raw ∧
    escape (raw ++ more) = escape raw ++ escape more ∧
    unescape (escape raw) = raw ∧
    (escape raw = escape more ↔ raw = more) ∧
    ((∃ source, escape source = text) ↔ Escaped text) ∧
    (escape (unescape text) = text ↔ Escaped text) := by
  refine ⟨fun r v => (escapeOnto_eq r.output v.output).symm, escapeOnto_eq out raw, ?_,
    unescape_escape raw, ⟨fun h => ?_, congrArg escape⟩, ⟨?_, fun h => ⟨_, escape_unescape h⟩⟩,
    fun h => h ▸ escaped_escape _, escape_unescape⟩
  · rw [escape, String.toList_append, encode_append, String.ofList_append]
    rfl
  · rw [← unescape_escape raw, h, unescape_escape]
  · rintro ⟨source, rfl⟩
    exact escaped_escape source

/-- One pass: what an entity stands for is not read again. -/
example : unescape "&amp;lt;&am" = "&lt;&am" := by
  decide

end Logicless.Html

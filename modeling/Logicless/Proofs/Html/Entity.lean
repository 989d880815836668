import Logicless.Html.Entity

namespace Logicless.Html

def entities : List (List Char) :=
  ['&', '<', '>', '"'].map encodeChar

/-- Every ampersand of the text begins one of the entities. -/
def AmpersandsBeginEntities (cs : List Char) : Prop :=
  ∀ rest, '&' :: rest <:+ cs → ∃ entity ∈ entities, entity <+: '&' :: rest

namespace AmpersandsBeginEntities

theorem of_not_mem {cs : List Char} (h : '&' ∉ cs) : AmpersandsBeginEntities cs :=
  fun _ hrest => absurd (hrest.subset List.mem_cons_self) h

theorem append {as bs : List Char} (has : AmpersandsBeginEntities as)
    (hbs : AmpersandsBeginEntities bs) : AmpersandsBeginEntities (as ++ bs) := by
  induction as with
  | nil => exact hbs
  | cons a as ih =>
    intro rest hrest
    rcases List.suffix_cons_iff.1 hrest with heq | hrest
    · cases heq
      obtain ⟨entity, hentity, hstart⟩ := has as List.suffix_rfl
      exact ⟨entity, hentity, hstart.trans (List.prefix_append ('&' :: as) bs)⟩
    · exact ih (fun rest h => has rest (h.trans (List.suffix_cons a as))) rest hrest

theorem encodeChar (c : Char) : AmpersandsBeginEntities (encodeChar c) := by
  intro rest hrest
  unfold Html.encodeChar at hrest
  split at hrest
  case h_5 hamp _ _ _ =>
    obtain ⟨hc, -⟩ : '&' = c ∧ rest = [] := by simpa [List.suffix_cons_iff] using hrest
    exact absurd hc.symm hamp
  all_goals
    simp only [List.suffix_cons_iff, List.suffix_nil, List.cons.injEq, true_and, reduceCtorEq,
      or_false, Char.reduceEq, false_and] at hrest
    subst hrest
    decide

theorem encode (cs : List Char) : AmpersandsBeginEntities (encode cs) := by
  induction cs with
  | nil => exact of_not_mem List.not_mem_nil
  | cons c cs ih => exact (encodeChar c).append ih

end AmpersandsBeginEntities

theorem not_mem_encodeChar {x : Char} (hx : x ∈ ['<', '>', '"']) (c : Char) :
    x ∉ encodeChar c := by
  have hcases : x = '<' ∨ x = '>' ∨ x = '"' := by simpa using hx
  unfold encodeChar
  split
  case h_5 hless hgreater hquote =>
    rw [List.mem_singleton]
    rintro rfl
    exact hcases.elim hless fun h => h.elim hgreater hquote
  all_goals rcases hcases with rfl | rfl | rfl <;> decide

theorem not_mem_encode {x : Char} (hx : x ∈ ['<', '>', '"']) (cs : List Char) : x ∉ encode cs := by
  rw [encode, List.mem_flatMap]
  rintro ⟨c, -, hc⟩
  exact not_mem_encodeChar hx c hc

theorem decode_encode_append (cs rest : List Char) :
    decode (encode cs ++ rest) = cs ++ decode rest := by
  induction cs with
  | nil => rfl
  | cons c cs ih =>
    rw [encode_cons, List.append_assoc, decode_encodeChar, ih, List.cons_append]

theorem decode_cons {c : Char} (h : c ≠ '&') (cs : List Char) :
    decode (c :: cs) = c :: decode cs := by
  rw [decode] <;> simp [h]

theorem decode_append {cs : List Char} (h : '&' ∉ cs) (rest : List Char) :
    decode (cs ++ rest) = cs ++ decode rest := by
  induction cs with
  | nil => rfl
  | cons c cs ih =>
    rw [List.mem_cons, not_or] at h
    rw [List.cons_append, decode_cons (Ne.symm h.1), ih h.2, List.cons_append]

end Logicless.Html

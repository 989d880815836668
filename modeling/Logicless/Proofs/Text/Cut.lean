import Logicless.Text.Cut

namespace Logicless.Text

theorem prefix_dropLast_of_prefix_append {mark cs after : List Char} (hcs : cs ≠ [])
    (h : mark <+: cs ++ mark ++ after) : mark <+: cs ++ mark.dropLast := by
  have hlast : cs ++ mark.dropLast <+: cs ++ mark ++ after :=
    ((List.prefix_append_right_inj cs).2 (List.dropLast_prefix mark)).trans (List.prefix_append _ _)
  have hlength : mark.length ≤ (cs ++ mark.dropLast).length := by
    have := List.length_pos_iff.2 hcs
    simp only [List.length_append, List.length_dropLast]
    omega
  exact List.prefix_of_prefix_length_le h hlast hlength

/-- No mark is found before the place of a cut, not even one that overlaps the mark there. -/
theorem not_infix_of_cut? {mark cs before after : List Char} (hm : mark ≠ [])
    (h : cut? mark cs = some (before, after)) : ¬ mark <:+: before ++ mark.dropLast := by
  induction cs generalizing before with
  | nil =>
    cases mark with
    | nil => exact absurd rfl hm
    | cons => simp [cut?] at h
  | cons c cs ih =>
    unfold cut? at h
    split at h
    · cases h
      intro hinfix
      have := hinfix.length_le
      have := List.length_pos_iff.2 hm
      simp only [List.nil_append, List.length_dropLast] at *
      omega
    · next hp =>
      obtain ⟨⟨b, a⟩, hcut, heq⟩ := Option.map_eq_some_iff.1 h
      cases heq
      rw [List.cons_append, List.infix_cons_iff]
      rintro (hstart | hinfix)
      · apply hp
        rw [List.isPrefixOf_iff_prefix, eq_of_cut? hcut]
        refine hstart.trans ?_
        rw [← List.cons_append, List.append_assoc, ← List.cons_append,
          List.prefix_append_right_inj]
        exact (List.dropLast_prefix mark).trans (List.prefix_append _ _)
      · exact ih hcut hinfix

theorem cut?_append {mark before : List Char} (hm : mark ≠ [])
    (h : ¬ mark <:+: before ++ mark.dropLast) (after : List Char) :
    cut? mark (before ++ mark ++ after) = some (before, after) := by
  induction before with
  | nil =>
    cases mark with
    | nil => exact absurd rfl hm
    | cons m mark => simp [cut?, List.isPrefixOf_iff_prefix]
  | cons c before ih =>
    rw [List.cons_append, List.infix_cons_iff, not_or] at h
    have hp : ¬ mark.isPrefixOf (c :: (before ++ mark ++ after)) := by
      intro hstart
      apply h.1
      exact prefix_dropLast_of_prefix_append (List.cons_ne_nil c before)
        (List.isPrefixOf_iff_prefix.1 hstart)
    rw [List.cons_append, List.cons_append, cut?, if_neg hp, ih h.2]
    rfl

theorem cut?_eq_some_iff {mark cs before after : List Char} (hm : mark ≠ []) :
    cut? mark cs = some (before, after) ↔
      cs = before ++ mark ++ after ∧ ¬ mark <:+: before ++ mark.dropLast := by
  constructor
  · intro h
    exact ⟨eq_of_cut? h, not_infix_of_cut? hm h⟩
  · rintro ⟨rfl, h⟩
    exact cut?_append hm h after

theorem cut?_eq_none_iff {mark cs : List Char} : cut? mark cs = none ↔ ¬ mark <:+: cs := by
  induction cs with
  | nil => cases mark <;> simp [cut?]
  | cons c cs ih =>
    rw [cut?, List.infix_cons_iff, not_or, ← ih]
    split
    · next hp => simp [List.isPrefixOf_iff_prefix.1 hp]
    · next hp =>
      rw [List.isPrefixOf_iff_prefix] at hp
      simp [hp]

theorem occurs_iff_infix {mark cs : List Char} : occurs mark cs = true ↔ mark <:+: cs := by
  rw [occurs, Option.isSome_iff_ne_none, Ne, cut?_eq_none_iff, Classical.not_not]

theorem occurs_eq_false_iff {mark cs : List Char} : occurs mark cs = false ↔ ¬ mark <:+: cs := by
  rw [← occurs_iff_infix, Bool.not_eq_true]

/-- Two equal characters in a row stand in one of two texts, or on both sides of where they meet. -/
theorem not_infix_pair_append {c : Char} {cs ds : List Char} (hcs : ¬ [c, c] <:+: cs)
    (hds : ¬ [c, c] <:+: ds) (hmeet : ¬ (cs.getLast? = some c ∧ ds.head? = some c)) :
    ¬ [c, c] <:+: cs ++ ds := by
  induction cs with
  | nil => exact hds
  | cons d cs ih =>
    rw [List.infix_cons_iff, not_or] at hcs
    rw [List.cons_append, List.infix_cons_iff]
    rintro (hstart | hinfix)
    · cases cs with
      | nil =>
        obtain ⟨hc, hd⟩ := List.cons_prefix_cons.1 hstart
        exact hmeet ⟨congrArg some hc.symm, List.singleton_prefix_iff_head?_eq_some.1 hd⟩
      | cons e cs =>
        apply hcs.1
        exact List.prefix_of_prefix_length_le hstart (List.prefix_append (d :: e :: cs) ds)
          (by simp)
    · refine ih hcs.2 (fun h => hmeet ⟨?_, h.2⟩) hinfix
      rw [List.getLast?_cons, h.1]
      rfl

theorem prefix_of_prefix_append_cons {mark ds : List Char} {c : Char} (hc : c ∉ mark)
    (cs : List Char) (h : mark <+: cs ++ c :: ds) : mark <+: cs := by
  have hconcat : cs ++ [c] <+: cs ++ c :: ds := by simp
  rcases List.prefix_or_prefix_of_prefix h hconcat with h | h
  · rcases List.prefix_concat_iff.1 h with rfl | h
    · exact absurd (List.mem_append_right cs List.mem_cons_self) hc
    · exact h
  · exact absurd (h.subset (List.mem_append_right cs List.mem_cons_self)) hc

theorem not_infix_append_cons {mark cs ds : List Char} {c : Char} (hc : c ∉ mark)
    (hcs : ¬ mark <:+: cs) (hds : ¬ mark <:+: ds) : ¬ mark <:+: cs ++ c :: ds := by
  induction cs with
  | nil =>
    rw [List.nil_append, List.infix_cons_iff]
    rintro (hstart | hinfix)
    · exact hcs (prefix_of_prefix_append_cons hc [] hstart).isInfix
    · exact hds hinfix
  | cons d cs ih =>
    rw [List.infix_cons_iff, not_or] at hcs
    rw [List.cons_append, List.infix_cons_iff]
    rintro (hstart | hinfix)
    · exact hcs.1 (prefix_of_prefix_append_cons hc (d :: cs) hstart)
    · exact ih hcs.2 hinfix

theorem infix_of_infix_append {mark cs ds : List Char} {c : Char} (hc : c ∉ cs)
    (h : c :: mark <:+: cs ++ ds) : c :: mark <:+: ds := by
  induction cs with
  | nil => exact h
  | cons d cs ih =>
    rw [List.mem_cons, not_or] at hc
    rw [List.cons_append, List.infix_cons_iff] at h
    rcases h with hstart | hinfix
    · exact absurd (List.cons_prefix_cons.1 hstart).1 hc.1
    · exact ih hc.2 hinfix

end Logicless.Text

namespace Logicless

/-- Any step of a history with one more is the last one or was there before. -/
theorem append_singleton_eq_iff {α : Type} {steps before since : List α} {last s : α} :
    steps ++ [last] = before ++ s :: since ↔
      (before = steps ∧ s = last ∧ since = []) ∨
        ∃ earlier, since = earlier ++ [last] ∧ steps = before ++ s :: earlier := by
  constructor
  · intro h
    rcases List.eq_nil_or_concat since with rfl | ⟨earlier, later, rfl⟩
    · obtain ⟨rfl, heq⟩ := List.append_inj' h rfl
      exact .inl ⟨rfl, (List.singleton_inj.1 heq).symm, rfl⟩
    · rw [List.concat_eq_append, ← List.cons_append, ← List.append_assoc] at h
      obtain ⟨rfl, heq⟩ := List.append_inj' h rfl
      obtain rfl := List.singleton_inj.1 heq
      exact .inr ⟨earlier, List.concat_eq_append, rfl⟩
  · intro h
    obtain ⟨rfl, rfl, rfl⟩ | ⟨earlier, rfl, rfl⟩ := h
    · rfl
    · rw [← List.cons_append, List.append_assoc]

end Logicless

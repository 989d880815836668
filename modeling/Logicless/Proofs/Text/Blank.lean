import Mathlib.Data.List.TakeWhile
import Logicless.Text.Blank

namespace Logicless.Text

theorem trimStart_append {blanks rest : List Char} (hblanks : ∀ c ∈ blanks, isBlank c = true)
    (hrest : ∀ c ∈ rest.head?, isBlank c = false) : trimStart (blanks ++ rest) = rest := by
  rw [trimStart, List.dropWhile_append_of_pos hblanks]
  cases rest with
  | nil => rfl
  | cons c rest =>
    have hc : isBlank c = false := hrest c rfl
    exact List.dropWhile_cons_of_neg (by rw [hc]; exact Bool.false_ne_true)

theorem exists_eq_append_trimStart (cs : List Char) :
    ∃ blanks, cs = blanks ++ trimStart cs ∧ (∀ c ∈ blanks, isBlank c = true) ∧
      ∀ c ∈ (trimStart cs).head?, isBlank c = false := by
  refine ⟨cs.takeWhile isBlank, List.takeWhile_append_dropWhile.symm, ?_, ?_⟩
  · intro c hc
    exact List.all_eq_true.1 List.all_takeWhile c hc
  · intro c hc
    have hhead := List.head?_dropWhile_not isBlank cs
    rw [trimStart, Option.mem_def] at hc
    rw [hc] at hhead
    exact hhead

theorem trimEnd_append {blanks : List Char} (hblanks : ∀ c ∈ blanks, isBlank c = true)
    (cs : List Char) : trimEnd (cs ++ blanks) = trimEnd cs := by
  have hreverse : ∀ c ∈ blanks.reverse, isBlank c = true :=
    fun c hc => hblanks c (List.mem_reverse.1 hc)
  rw [trimEnd, trimEnd, List.reverse_append, List.dropWhile_append_of_pos hreverse]

theorem trim_append {before after : List Char} (hbefore : ∀ c ∈ before, isBlank c = true)
    (hafter : ∀ c ∈ after, isBlank c = true) (cs : List Char) :
    trim (before ++ cs ++ after) = trim cs := by
  have hstart : trimStart (before ++ cs ++ after) = trimStart (cs ++ after) := by
    rw [trimStart, List.append_assoc, List.dropWhile_append_of_pos hbefore]
    rfl
  rw [trim, trim, hstart, trimStart, List.dropWhile_append]
  split
  · next hempty =>
    have hnil : trimStart cs = [] := List.isEmpty_iff.1 hempty
    have hblank : after.dropWhile isBlank = [] := List.dropWhile_eq_nil_iff.2 hafter
    rw [hnil, hblank]
  · exact trimEnd_append hafter _

theorem exists_eq_append_trimEnd (cs : List Char) :
    ∃ blanks, cs = trimEnd cs ++ blanks ∧ ∀ c ∈ blanks, isBlank c = true := by
  refine ⟨(cs.reverse.takeWhile isBlank).reverse, ?_, fun c hc => ?_⟩
  · rw [trimEnd, ← List.reverse_append, List.takeWhile_append_dropWhile, List.reverse_reverse]
  · exact List.all_eq_true.1 List.all_takeWhile c (List.mem_reverse.1 hc)

theorem exists_eq_append_trim (cs : List Char) :
    ∃ before after, cs = before ++ trim cs ++ after ∧ (∀ c ∈ before, isBlank c = true) ∧
      ∀ c ∈ after, isBlank c = true := by
  obtain ⟨before, hcs, hbefore, -⟩ := exists_eq_append_trimStart cs
  obtain ⟨after, hstart, hafter⟩ := exists_eq_append_trimEnd (trimStart cs)
  exact ⟨before, after, by rw [trim, List.append_assoc, ← hstart, ← hcs], hbefore, hafter⟩

theorem isInfix_trim (cs : List Char) : trim cs <:+: cs := by
  obtain ⟨before, after, hcs, -⟩ := exists_eq_append_trim cs
  exact ⟨before, after, hcs.symm⟩

theorem trimmed_trim (cs : List Char) : Trimmed (trim cs) := by
  obtain ⟨before, after, hcs, hbefore, hafter⟩ := exists_eq_append_trim cs
  rw [Trimmed, ← trim_append hbefore hafter, ← hcs]

theorem head?_trim {cs : List Char} (h : ∀ c ∈ cs.head?, isBlank c = false) :
    (trim cs).head? = cs.head? := by
  obtain ⟨before, after, hcs, hbefore, hafter⟩ := exists_eq_append_trim cs
  generalize trim cs = ds at hcs
  subst hcs
  cases before with
  | cons c before =>
    have hblank := hbefore c List.mem_cons_self
    cases hblank.symm.trans (h c rfl)
  | nil =>
    cases ds with
    | cons => rfl
    | nil =>
      cases after with
      | nil => rfl
      | cons c after =>
        have hblank := hafter c List.mem_cons_self
        cases hblank.symm.trans (h c rfl)

theorem Trimmed.head_not_blank {cs : List Char} (h : Trimmed cs) :
    ∀ c ∈ cs.head?, isBlank c = false := by
  obtain ⟨-, -, -, hhead⟩ := exists_eq_append_trimStart cs
  obtain ⟨after, hstart, -⟩ := exists_eq_append_trimEnd (trimStart cs)
  intro c hc
  apply hhead
  have htrim : trimStart cs = cs ++ after := hstart.trans (congrArg (· ++ after) h)
  rw [htrim, List.head?_append, Option.mem_def.1 hc]
  rfl

end Logicless.Text

import Mathlib
import Logicless.Proofs.Number.Decimal

namespace Logicless.Magnitude

theorem two_pow_mul (a b : Nat) : Nat.pow 2 a * Nat.pow 2 b = Nat.pow 2 (a + b) :=
  (Nat.pow_add 2 a b).symm

theorem two_pow_mul_eq {a b c one : Nat} (hone : one = Nat.pow 2 c) (h : a + b = c) :
    Nat.pow 2 a * Nat.pow 2 b = one := by
  rw [two_pow_mul, h, hone]

theorem pos_of_eq_two_pow {c one : Nat} (hone : one = Nat.pow 2 c) : 0 < one :=
  hone ▸ Nat.two_pow_pos c

section Whole

-- The one of the units has a name, so that nothing computes it.
variable {one : Nat} (hone : one = Nat.pow 2 1074)
include hone

theorem exists_units_eq_of_lt {n : Nat} (hzero : n ≠ 0) (h : n < 2 ^ 53) :
    ∃ m : Magnitude, m.units = n * one := by
  have hlog : n.log2 < 53 := (Nat.log2_lt hzero).2 h
  have hlow : 2 ^ n.log2 ≤ n := Nat.log2_self_le hzero
  have hhigh : n < 2 ^ (n.log2 + 1) := Nat.lt_log2_self
  have hlt : n * Nat.pow 2 (52 - n.log2) < Nat.pow 2 53 := by
    calc
      n * Nat.pow 2 (52 - n.log2)
      _ < Nat.pow 2 (n.log2 + 1) * Nat.pow 2 (52 - n.log2) :=
        Nat.mul_lt_mul_of_pos_right hhigh (Nat.two_pow_pos _)
      _ = Nat.pow 2 (n.log2 + 1 + (52 - n.log2)) := two_pow_mul _ _
      _ = Nat.pow 2 53 := congrArg _ (by omega)
  have hge : Nat.pow 2 52 ≤ n * Nat.pow 2 (52 - n.log2) := by
    calc
      Nat.pow 2 52
      _ = Nat.pow 2 (n.log2 + (52 - n.log2)) := congrArg _ (by omega)
      _ = Nat.pow 2 n.log2 * Nat.pow 2 (52 - n.log2) := (two_pow_mul _ _).symm
      _ ≤ n * Nat.pow 2 (52 - n.log2) := Nat.mul_le_mul_right _ hlow
  have hscale : 1022 + n.log2 ≤ 2045 := by omega
  have hsum : 52 - n.log2 + (1022 + n.log2) = 1074 := by omega
  refine ⟨⟨_, 1022 + n.log2, hlt, .inr hge, hscale⟩, ?_⟩
  rw [units, Nat.mul_assoc, two_pow_mul_eq hone hsum]

theorem exists_units_eq {n : Nat} (h : n ≤ 2 ^ 53) : ∃ m : Magnitude, m.units = n * one := by
  by_cases hzero : n = 0
  · refine ⟨zero, ?_⟩
    rw [units, hzero, Nat.zero_mul]
    exact Nat.zero_mul _
  rcases Nat.lt_or_eq_of_le h with hlt | htop
  · exact exists_units_eq_of_lt hone hzero hlt
  · have hsum : 1 + 1074 = 1075 := rfl
    refine ⟨⟨Nat.pow 2 52, 1075, by decide, .inr (Nat.le_refl _), by decide⟩, ?_⟩
    rw [units, two_pow_of_add_eq hone hsum, ← Nat.mul_assoc, htop]
    rfl

theorem nearest?_of_le {n : Nat} (h : n ≤ 2 ^ 53) :
    ∃ m, nearest? (n * one) 1 = some m ∧ m.units = n * one := by
  obtain ⟨m, hm⟩ := exists_units_eq hone h
  exact ⟨m, hm ▸ nearest?_units m, hm⟩

end Whole

theorem le_divNearest (num : Nat) {den : Nat} (hden : 0 < den) :
    2 * num ≤ 2 * (divNearest num den * den) + den := by
  have hdiv := Nat.div_add_mod' num den
  have hmod := Nat.mod_lt num hden
  simp only [divNearest]
  split
  · omega
  · rw [Nat.add_one_mul (num / den) den]
    omega

theorem units_of_ofParts? {significand scale : Nat} {m : Magnitude}
    (h : ofParts? significand scale = some m) : m.units = significand * Nat.pow 2 scale := by
  unfold ofParts? at h
  split at h
  · cases h
    rfl
  · cases h

theorem units_of_nearest? {num : Nat} {m : Magnitude} (h : nearest? num 1 = some m) :
    m.units = divNearest num (Nat.pow 2 (num.log2 - 52)) * Nat.pow 2 (num.log2 - 52) := by
  simp only [nearest?, Nat.div_one, Nat.one_mul] at h
  split at h
  · next htop =>
    have hsum : 52 + (num.log2 - 52 + 1) = 53 + (num.log2 - 52) := by omega
    rw [units_of_ofParts? h, htop, two_pow_mul, two_pow_mul, hsum]
  · exact units_of_ofParts? h

/-- Rounding takes off one part in 2⁵³ at most. -/
theorem le_units_of_nearest? {num : Nat} {m : Magnitude} (h : nearest? num 1 = some m) :
    num * 2 ^ 53 ≤ m.units * 2 ^ 53 + num := by
  have hround := le_divNearest num (Nat.two_pow_pos (num.log2 - 52))
  rw [← Nat.pow_eq, ← units_of_nearest? h] at hround
  by_cases hlog : num.log2 ≤ 52
  · rw [Nat.sub_eq_zero_of_le hlog, Nat.pow_eq, Nat.pow_zero] at hround
    omega
  · have hzero : num ≠ 0 := by
      rintro rfl
      exact hlog (by decide)
    have hself := Nat.log2_self_le hzero
    rw [← Nat.sub_add_cancel (Nat.le_of_not_le hlog), Nat.pow_add] at hself
    calc
      num * 2 ^ 53
      _ = 2 * num * 2 ^ 52 := by ring
      _ ≤ (2 * m.units + Nat.pow 2 (num.log2 - 52)) * 2 ^ 52 := Nat.mul_le_mul_right _ hround
      _ = m.units * 2 ^ 53 + Nat.pow 2 (num.log2 - 52) * 2 ^ 52 := by ring
      _ ≤ m.units * 2 ^ 53 + num := Nat.add_le_add_left hself _

/-- Where a whole number up to 2⁵³ is the nearest magnitude to another one, that one is 2⁵³ + 1,
which lies half way between two magnitudes. -/
theorem eq_or_eq_of_nearest? {one : Nat} (hone : one = Nat.pow 2 1074) {n k : Nat} {m : Magnitude}
    (h : nearest? (n * one) 1 = some m) (hm : m.units = k * one) (hk : k ≤ 2 ^ 53) :
    n = k ∨ n = 2 ^ 53 + 1 := by
  have hpos := pos_of_eq_two_pow hone
  by_cases hn : n ≤ 2 ^ 53
  · left
    obtain ⟨m', hm', hunits⟩ := nearest?_of_le hone hn
    cases h.symm.trans hm'
    exact Nat.eq_of_mul_eq_mul_right hpos (hunits.symm.trans hm)
  · right
    have hle := le_units_of_nearest? h
    rw [hm, Nat.mul_right_comm n, Nat.mul_right_comm k, ← Nat.add_mul] at hle
    have hbound := Nat.le_of_mul_le_mul_right hle hpos
    omega

end Logicless.Magnitude

import Logicless.Number

namespace Logicless.Magnitude

theorem divNearest_mul_right (num : Nat) {den c : Nat} (hc : 0 < c) :
    divNearest (num * c) (den * c) = divNearest num den := by
  have hlt : 2 * (num % den * c) < den * c ↔ 2 * (num % den) < den := by
    rw [← Nat.mul_assoc, Nat.mul_lt_mul_right hc]
  have heq : 2 * (num % den * c) = den * c ↔ 2 * (num % den) = den := by
    rw [← Nat.mul_assoc, Nat.mul_left_inj (Nat.ne_of_gt hc)]
  simp only [divNearest, Nat.mul_div_mul_right num den hc, Nat.mul_mod_mul_right, hlt, heq]

theorem divNearest_mul_self (q : Nat) {den : Nat} (hden : 0 < den) :
    divNearest (q * den) den = q := by
  simp only [divNearest, Nat.mul_div_cancel q hden, Nat.mul_mod_left]
  exact if_pos (.inl hden)

/-- The nearest magnitude is that of the quotient, however it is written. -/
theorem nearest?_mul_right (num den : Nat) {c : Nat} (hc : 0 < c) :
    nearest? (num * c) (den * c) = nearest? num den := by
  have hswap : den * c * Nat.pow 2 ((num / den).log2 - 52) =
      den * Nat.pow 2 ((num / den).log2 - 52) * c := Nat.mul_right_comm ..
  simp only [nearest?, Nat.mul_div_mul_right num den hc, hswap, divNearest_mul_right num hc]

theorem log2_units (m : Magnitude) : m.units.log2 - 52 = m.scale := by
  have hlt : m.significand < 2 ^ 53 := m.significand_lt
  rcases m.normal with hscale | hnormal
  · rw [units, hscale, Nat.pow_eq, Nat.pow_zero, Nat.mul_one]
    by_cases hzero : m.significand = 0
    · rw [hzero, Nat.log2_zero]
    · have hlog := (Nat.log2_lt hzero).2 hlt
      omega
  · have hlow : 2 ^ (52 + m.scale) ≤ m.units := by
      rw [Nat.pow_add]
      exact Nat.mul_le_mul_right _ hnormal
    have hhigh : m.units < 2 ^ (52 + m.scale + 1) := by
      rw [Nat.add_right_comm, Nat.pow_add]
      exact Nat.mul_lt_mul_of_pos_right hlt (Nat.two_pow_pos m.scale)
    have hne : m.units ≠ 0 := Nat.ne_of_gt (Nat.lt_of_lt_of_le (Nat.two_pow_pos _) hlow)
    rw [(Nat.log2_eq_iff hne).2 ⟨hlow, hhigh⟩, Nat.add_sub_cancel_left]

theorem ofParts?_self (m : Magnitude) : ofParts? m.significand m.scale = some m :=
  dif_pos ⟨m.significand_lt, m.normal, m.scale_le⟩

theorem nearest?_units (m : Magnitude) : nearest? m.units 1 = some m := by
  have hdiv : divNearest m.units (1 * Nat.pow 2 m.scale) = m.significand := by
    rw [Nat.one_mul]
    exact divNearest_mul_self _ (Nat.two_pow_pos m.scale)
  simp only [nearest?, Nat.div_one, log2_units, hdiv]
  rw [if_neg (Nat.ne_of_lt m.significand_lt), ofParts?_self]

end Logicless.Magnitude

import Mathlib
import Logicless.Number.Decimal
import Logicless.Proofs.Number.Nearest

namespace Logicless

theorem decimalSize_eq_length (n : Nat) : decimalSize n = (Nat.repr n).length := by
  induction n using decimalSize.induct with
  | case1 n h =>
    rw [decimalSize, if_pos h, Nat.repr_of_lt h, String.length_singleton]
  | case2 n h ih =>
    rw [decimalSize, if_neg h, Nat.repr_of_ge (Nat.not_lt.1 h), String.length_append, ih,
      String.length_singleton]

theorem decimalSize_le_iff {n k : Nat} (h : 0 < k) : decimalSize n ≤ k ↔ n < 10 ^ k := by
  rw [decimalSize_eq_length, Nat.length_repr_le_iff h]

theorem decimalSize_pos (n : Nat) : 0 < decimalSize n := by
  rw [decimalSize_eq_length]
  exact Nat.length_repr_pos

theorem decimalSize_mul_ten {n : Nat} (h : n ≠ 0) : decimalSize (n * 10) = decimalSize n + 1 := by
  rw [decimalSize, if_neg (by omega), Nat.mul_div_cancel n (by decide)]

theorem ten_pow_pos (k : Nat) : 0 < 10 ^ k :=
  Nat.pow_pos (by decide)

namespace Decimal

theorem magnitude?_eq {d : Decimal} {a b : Nat} (h : d.exponent = a - b) :
    d.magnitude? =
      if d.digits = 0 ∨ d.exponent + decimalSize d.digits < -325 then some .zero
      else if 311 ≤ d.exponent + decimalSize d.digits then none
      else Magnitude.nearest? (d.digits * 10 ^ a * Nat.pow 2 1074) (10 ^ b) := by
  obtain ⟨n, e⟩ := d
  rw [magnitude?]
  congr 2
  generalize Nat.pow 2 1074 = u
  cases e with
  | ofNat e =>
    obtain rfl : e + b = a := by simp only [Int.ofNat_eq_natCast] at h; omega
    have hnum : n * 10 ^ (e + b) * u = n * 10 ^ e * u * 10 ^ b := by
      rw [Nat.pow_add, ← Nat.mul_assoc, Nat.mul_right_comm]
    have hscale := Magnitude.nearest?_mul_right (n * 10 ^ e * u) 1 (ten_pow_pos b)
    rw [Nat.one_mul, ← hnum] at hscale
    exact hscale.symm
  | negSucc e =>
    obtain rfl : e + 1 + a = b := by simp only [Int.negSucc_eq] at h; omega
    have hscale := Magnitude.nearest?_mul_right (n * u) (10 ^ (e + 1)) (ten_pow_pos a)
    rw [← Nat.pow_add, Nat.mul_right_comm] at hscale
    exact hscale.symm

-- The one of the units has a name, so that nothing computes it.
theorem magnitude?_of_bounds {d : Decimal} {a b one : Nat} (hone : one = Nat.pow 2 1074)
    (h : d.exponent = a - b) (hne : d.digits ≠ 0)
    (hlow : -325 ≤ d.exponent + decimalSize d.digits)
    (hhigh : d.exponent + decimalSize d.digits ≤ 310) :
    d.magnitude? = Magnitude.nearest? (d.digits * 10 ^ a * one) (10 ^ b) := by
  rw [magnitude?_eq h, if_neg (by omega), if_neg (by omega), hone]

theorem exponent_eq_sub (e : Int) : e = e.toNat - (-e).toNat := by
  omega

theorem magnitude?_mul_ten (n : Nat) (e : Int) :
    magnitude? ⟨n * 10, e - 1⟩ = magnitude? ⟨n, e⟩ := by
  have he := exponent_eq_sub e
  have he' : e - 1 = (e.toNat : Int) - ((-e).toNat + 1 : Nat) := by omega
  rw [magnitude?_eq (d := ⟨n, e⟩) he, magnitude?_eq (d := ⟨n * 10, e - 1⟩) he']
  by_cases hn : n = 0
  · rw [hn, Nat.zero_mul, if_pos (.inl rfl), if_pos (.inl rfl)]
  · generalize Nat.pow 2 1074 = u
    have hnum : n * 10 * 10 ^ e.toNat * u = n * 10 ^ e.toNat * u * 10 := by
      rw [Nat.mul_right_comm n, Nat.mul_right_comm _ 10]
    have htop : e - 1 + (decimalSize (n * 10) : Int) = e + decimalSize n := by
      rw [decimalSize_mul_ten hn]
      omega
    have hzero : n * 10 = 0 ↔ n = 0 := by omega
    have hscale := Magnitude.nearest?_mul_right (n * 10 ^ e.toNat * u) (10 ^ (-e).toNat)
      (by decide : 0 < 10)
    simp only [htop, hzero, hnum, Nat.pow_succ, hscale]

theorem magnitude?_mul_pow (n k : Nat) (e : Int) :
    magnitude? ⟨n * 10 ^ k, e - k⟩ = magnitude? ⟨n, e⟩ := by
  induction k with
  | zero => rw [Nat.pow_zero, Nat.mul_one, Int.natCast_zero, Int.sub_zero]
  | succ k ih =>
    have he : e - (k + 1 : Nat) = e - k - 1 := by omega
    rw [Nat.pow_succ, ← Nat.mul_assoc, he, magnitude?_mul_ten, ih]

theorem magnitude?_stripZeros (d : Decimal) : d.stripZeros.magnitude? = d.magnitude? := by
  induction d using stripZeros.induct with
  | case1 d h =>
    rw [stripZeros, if_pos h, magnitude?, magnitude?, if_pos (.inl rfl), if_pos (.inl h)]
  | case2 d h hmod ih =>
    rw [stripZeros, if_neg h, if_pos hmod, ih, ← magnitude?_mul_ten,
      Nat.div_mul_cancel (Nat.dvd_of_mod_eq_zero hmod), Int.add_sub_cancel]
  | case3 d h hmod => rw [stripZeros, if_neg h, if_neg hmod]

theorem exponent_stripZeros {d : Decimal} (h : d.stripZeros.digits = 0) :
    d.stripZeros.exponent = 0 := by
  induction d using stripZeros.induct with
  | case1 d hd => rw [stripZeros, if_pos hd]
  | case2 d hd hmod ih =>
    rw [stripZeros, if_neg hd, if_pos hmod] at h ⊢
    exact ih h
  | case3 d hd hmod =>
    rw [stripZeros, if_neg hd, if_neg hmod] at h
    exact absurd h hd

end Decimal

namespace Magnitude

theorem digits_decimal_eq_zero_iff {m : Magnitude} :
    m.decimal.digits = 0 ↔ m.significand = 0 := by
  rw [decimal]
  split
  · exact Nat.mul_eq_zero.trans (or_iff_left (Nat.ne_of_gt (Nat.two_pow_pos _)))
  · exact Nat.mul_eq_zero.trans (or_iff_left (Nat.ne_of_gt (Nat.pow_pos (by decide))))

theorem decimalSize_le_of_scale {m : Magnitude} (h : 1074 ≤ m.scale) :
    decimalSize (m.significand * 2 ^ (m.scale - 1074)) ≤ 310 := by
  rw [decimalSize_le_iff (by decide)]
  calc
    m.significand * 2 ^ (m.scale - 1074)
    _ < 2 ^ 53 * 2 ^ (m.scale - 1074) :=
      Nat.mul_lt_mul_of_pos_right m.significand_lt (Nat.two_pow_pos _)
    _ = 2 ^ (53 + (m.scale - 1074)) := (Nat.pow_add ..).symm
    _ ≤ 2 ^ 1024 := Nat.pow_le_pow_right (by decide) (by have := m.scale_le; omega)
    _ ≤ 10 ^ 310 := by decide +kernel

theorem decimalSize_le_of_fraction (m : Magnitude) (k : Nat) :
    decimalSize (m.significand * 5 ^ k) ≤ 310 + k := by
  rw [decimalSize_le_iff (by omega), Nat.pow_add]
  calc
    m.significand * 5 ^ k
    _ < 2 ^ 53 * 5 ^ k := Nat.mul_lt_mul_of_pos_right m.significand_lt (Nat.pow_pos (by decide))
    _ ≤ 10 ^ 310 * 10 ^ k :=
      Nat.mul_le_mul (by decide +kernel) (Nat.pow_le_pow_left (by decide) k)

/-- A power of two below takes fewer places off than a power of ten that is no less. -/
theorem lt_decimalSize_add {n k c : Nat} (hn : n ≠ 0) (h : 2 ^ k ≤ 10 ^ c) :
    k < decimalSize (n * 5 ^ k) + c := by
  refine Nat.lt_of_not_le fun hle => ?_
  have hpos := decimalSize_pos (n * 5 ^ k)
  have hsize : decimalSize (n * 5 ^ k) ≤ k - c := by omega
  rw [decimalSize_le_iff (by omega)] at hsize
  have hdigits : 5 ^ k * 10 ^ c < 5 ^ k * 2 ^ k := by
    calc
      5 ^ k * 10 ^ c
      _ ≤ n * 5 ^ k * 10 ^ c :=
        Nat.mul_le_mul_right _ (Nat.le_mul_of_pos_left _ (Nat.pos_of_ne_zero hn))
      _ < 10 ^ (k - c) * 10 ^ c := Nat.mul_lt_mul_of_pos_right hsize (ten_pow_pos c)
      _ = 10 ^ k := by rw [← Nat.pow_add, Nat.sub_add_cancel (by omega)]
      _ = 5 ^ k * 2 ^ k := by rw [← Nat.mul_pow]
  exact Nat.not_lt.2 h (Nat.lt_of_mul_lt_mul_left hdigits)

theorem two_pow_le {k : Nat} (h : k ≤ 1074) : 2 ^ k ≤ 10 ^ 326 :=
  Nat.le_trans (Nat.pow_le_pow_right (by decide) h) (by decide +kernel)

theorem eq_zero_of_significand {m : Magnitude} (h : m.significand = 0) : m = zero := by
  obtain ⟨n, s, hlt, hnormal, hle⟩ := m
  obtain rfl : n = 0 := h
  obtain rfl : s = 0 := hnormal.resolve_right (by decide)
  rfl

theorem two_pow_of_add_eq {a b c one : Nat} (hone : one = Nat.pow 2 b) (h : a + b = c) :
    Nat.pow 2 c = Nat.pow 2 a * one := by
  subst h hone
  exact Nat.pow_add ..

theorem magnitude?_decimal_of_le {m : Magnitude} (hne : m.significand ≠ 0)
    (hscale : 1074 ≤ m.scale) : m.decimal.magnitude? = some m := by
  obtain ⟨one, hone⟩ : ∃ one, one = Nat.pow 2 1074 := ⟨_, rfl⟩
  have hdigits := mt digits_decimal_eq_zero_iff.1 hne
  have hsize := decimalSize_le_of_scale hscale
  have hunits : m.significand * Nat.pow 2 (m.scale - 1074) * one = m.units := by
    rw [units, two_pow_of_add_eq hone (Nat.sub_add_cancel hscale), Nat.mul_assoc]
  rw [decimal, if_pos hscale] at hdigits ⊢
  rw [Decimal.magnitude?_of_bounds (a := 0) (b := 0) hone rfl hdigits (by simp only []; omega)
    (by simp only [Nat.pow_eq]; omega), Nat.pow_zero, Nat.mul_one, hunits,
    nearest?_units]

theorem magnitude?_decimal_of_lt {m : Magnitude} (hne : m.significand ≠ 0)
    (hscale : ¬ 1074 ≤ m.scale) : m.decimal.magnitude? = some m := by
  obtain ⟨one, hone⟩ : ∃ one, one = Nat.pow 2 1074 := ⟨_, rfl⟩
  obtain ⟨k, hk⟩ : ∃ k, 1074 - m.scale = k := ⟨_, rfl⟩
  have hdigits := mt digits_decimal_eq_zero_iff.1 hne
  have hhigh := decimalSize_le_of_fraction m k
  have hlow := lt_decimalSize_add hne (two_pow_le (show k ≤ 1074 by omega))
  have hunits : m.significand * Nat.pow 5 k * one = m.units * 10 ^ k := by
    have hsum : m.scale + k = 1074 := by omega
    have hpow : 10 ^ k = Nat.pow 5 k * Nat.pow 2 k := Nat.mul_pow 5 2 k
    have hsplit : one = Nat.pow 2 m.scale * Nat.pow 2 k := by
      rw [hone, ← hsum]
      exact Nat.pow_add ..
    rw [units, hsplit, hpow]
    ac_rfl
  have hscaled := nearest?_mul_right m.units 1 (ten_pow_pos k)
  rw [decimal, if_neg hscale, hk] at hdigits ⊢
  rw [Decimal.magnitude?_of_bounds (a := 0) (b := k) hone (by simp) hdigits
    (by simp only [Nat.pow_eq]; omega) (by simp only [Nat.pow_eq]; omega), Nat.pow_zero,
    Nat.mul_one, hunits, ← nearest?_units m, ← hscaled, Nat.one_mul]

theorem magnitude?_decimal (m : Magnitude) : m.decimal.magnitude? = some m := by
  by_cases hzero : m.significand = 0
  · rw [Decimal.magnitude?, if_pos (.inl (digits_decimal_eq_zero_iff.2 hzero)),
      eq_zero_of_significand hzero]
  · by_cases hscale : 1074 ≤ m.scale
    · exact magnitude?_decimal_of_le hzero hscale
    · exact magnitude?_decimal_of_lt hzero hscale

theorem magnitude?_of_roundedDecimal? {tie : Tie} {m : Magnitude} {drop : Nat} {d : Decimal}
    (h : m.roundedDecimal? tie drop = some d) : d.magnitude? = some m := by
  rw [roundedDecimal?] at h
  have hread := List.find?_some h
  exact eq_of_beq hread

/-- The shortest decimal reads as the magnitude. -/
theorem magnitude?_shortest (m : Magnitude) (tie : Tie) : (m.shortest tie).magnitude? = some m := by
  rw [shortest, Decimal.magnitude?_stripZeros]
  cases hfound : (List.range (decimalSize m.decimal.digits)).findSome? fun kept =>
      m.roundedDecimal? tie (decimalSize m.decimal.digits - 1 - kept) with
  | none => exact magnitude?_decimal m
  | some d =>
    obtain ⟨kept, -, hd⟩ := List.exists_of_findSome?_eq_some hfound
    exact magnitude?_of_roundedDecimal? hd

theorem exponent_shortest (m : Magnitude) (tie : Tie) (h : (m.shortest tie).digits = 0) :
    (m.shortest tie).exponent = 0 :=
  Decimal.exponent_stripZeros h

theorem digits_shortest_ne_zero (m : Magnitude) (h : m.significand ≠ 0) (tie : Tie) :
    (m.shortest tie).digits ≠ 0 := by
  intro hzero
  have hread := m.magnitude?_shortest tie
  rw [Decimal.magnitude?, if_pos (.inl hzero)] at hread
  cases hread
  exact h rfl

end Magnitude

end Logicless

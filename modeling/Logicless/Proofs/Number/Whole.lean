import Mathlib
import Logicless.Number.Layout
import Logicless.Proofs.Number.Digits
import Logicless.Proofs.Number.Exact

namespace Logicless

namespace Decimal

def value (d : Decimal) : ℚ :=
  d.digits * 10 ^ d.exponent

theorem value_whole (k c : Nat) : value ⟨k * 10 ^ c, -c⟩ = k := by
  rw [value, zpow_neg, zpow_natCast]
  push_cast
  field_simp

theorem value_stripZeros (d : Decimal) : d.stripZeros.value = d.value := by
  induction d using stripZeros.induct with
  | case1 d h => simp [stripZeros, value, h]
  | case2 d h hmod ih =>
    obtain ⟨n, hn⟩ := Nat.dvd_of_mod_eq_zero hmod
    rw [stripZeros, if_neg h, if_pos hmod, ih, value, value, hn,
      Nat.mul_div_cancel_left n (by decide), zpow_add_one₀ (by decide)]
    push_cast
    ring
  | case3 d h hmod => rw [stripZeros, if_neg h, if_neg hmod]

theorem digits_stripZeros_mod (d : Decimal) (h : d.stripZeros.digits ≠ 0) :
    d.stripZeros.digits % 10 ≠ 0 := by
  induction d using stripZeros.induct with
  | case1 d hd =>
    rw [stripZeros, if_pos hd] at h
    exact absurd rfl h
  | case2 d hd hmod ih =>
    rw [stripZeros, if_neg hd, if_pos hmod] at h ⊢
    exact ih h
  | case3 d hd hmod => rwa [stripZeros, if_neg hd, if_neg hmod]

theorem exists_exponent_stripZeros {d : Decimal} {k : Nat} (h : d.value = k) :
    ∃ e : Nat, d.stripZeros.exponent = e ∧ d.stripZeros.digits * 10 ^ e = k := by
  rw [← value_stripZeros, value] at h
  have hzero := exponent_stripZeros (d := d)
  have hmod := digits_stripZeros_mod d
  generalize d.stripZeros = s at h hzero hmod
  obtain ⟨n, e⟩ := s
  cases e with
  | ofNat e =>
    refine ⟨e, rfl, ?_⟩
    simp only [Int.ofNat_eq_natCast, zpow_natCast] at h
    exact_mod_cast h
  | negSucc e =>
    have hn : n ≠ 0 := fun hn => absurd (hzero hn) (Int.negSucc_ne_zero e)
    have hdigits : n = k * 10 ^ (e + 1) := by
      simp only [zpow_negSucc] at h
      rw [mul_inv_eq_iff_eq_mul₀ (by positivity)] at h
      exact_mod_cast h
    refine absurd ?_ (hmod hn)
    rw [hdigits, Nat.pow_succ, ← Nat.mul_assoc, Nat.mul_mod_left]

end Decimal

namespace Magnitude

theorem roundedDecimal?_of_zeros {m : Magnitude} {n drop : Nat} {e : Int}
    (h : m.decimal = ⟨n * 10 ^ drop, e⟩) (tie : Tie) :
    m.roundedDecimal? tie drop = some ⟨n, e + drop⟩ := by
  have hread : Decimal.magnitude? ⟨n, e + drop⟩ = some m := by
    rw [← Decimal.magnitude?_mul_pow n drop, add_sub_cancel_right, ← h, magnitude?_decimal]
  have hpos : 0 < Nat.pow 10 drop := ten_pow_pos drop
  rw [← Nat.pow_eq] at h
  simp only [roundedDecimal?, h, Nat.mul_mod_left, Nat.mul_div_cancel _ hpos]
  simp [hread]

theorem exponent_of_roundedDecimal? {m : Magnitude} {tie : Tie} {drop : Nat} {d : Decimal}
    (h : m.roundedDecimal? tie drop = some d) : d.exponent = m.decimal.exponent + drop := by
  have hmem := List.mem_of_find?_eq_some h
  split at hmem
  all_goals
    simp only [List.mem_cons, List.not_mem_nil, or_false] at hmem
    rcases hmem with rfl | rfl <;> rfl

section Whole

variable {m : Magnitude} {k one : Nat} (hone : one = Nat.pow 2 1074) (hm : m.units = k * one)
include hone hm

theorem exists_decimal_eq : ∃ c : Nat, m.decimal = ⟨k * 10 ^ c, -c⟩ := by
  have hpos := pos_of_eq_two_pow hone
  rw [units] at hm
  rw [decimal]
  split
  · next hscale =>
    refine ⟨0, ?_⟩
    rw [two_pow_of_add_eq hone (Nat.sub_add_cancel hscale), ← Nat.mul_assoc] at hm
    rw [Nat.eq_of_mul_eq_mul_right hpos hm, Nat.pow_zero, Nat.mul_one, Int.natCast_zero, neg_zero]
  · next hscale =>
    obtain ⟨c, hc⟩ : ∃ c, 1074 - m.scale = c := ⟨_, rfl⟩
    have hsum : c + m.scale = 1074 := by omega
    refine ⟨c, ?_⟩
    rw [← two_pow_mul_eq hone hsum, ← Nat.mul_assoc] at hm
    rw [hc, Nat.eq_of_mul_eq_mul_right (Nat.two_pow_pos _) hm, Nat.mul_assoc]
    have hten : Nat.pow 2 c * Nat.pow 5 c = 10 ^ c := (Nat.mul_pow 2 5 c).symm
    rw [hten]

theorem value_decimal : m.decimal.value = k := by
  obtain ⟨c, hc⟩ := exists_decimal_eq hone hm
  rw [hc, Decimal.value_whole]

/-- A multiple of ten that reads as a whole number up to 2⁵³ is that number, since 2⁵³ + 1 is no
multiple of ten. -/
theorem value_eq_of_magnitude? (hk : k ≤ 2 ^ 53) {d : Decimal} {j : Nat}
    (hexponent : d.exponent = (j + 1 : Nat)) (hread : d.magnitude? = some m) : d.value = k := by
  have hsize := decimalSize_pos d.digits
  rw [Decimal.value, hexponent, zpow_natCast]
  rw [Decimal.magnitude?_eq (a := j + 1) (b := 0) (by rw [hexponent]; omega), hexponent] at hread
  split at hread
  · next hzero =>
    cases hread
    have hdigits : d.digits = 0 := hzero.resolve_right (by omega)
    have hunits : 0 = k * one := (Nat.zero_mul _).symm.trans hm
    have hk : k = 0 := (Nat.mul_eq_zero.1 hunits.symm).resolve_right
      (Nat.ne_of_gt (pos_of_eq_two_pow hone))
    rw [hdigits, hk, Nat.cast_zero, zero_mul]
  · split at hread
    · cases hread
    · rw [← hone, Nat.pow_zero] at hread
      have hmod : d.digits * 10 ^ (j + 1) % 10 = 0 := by
        rw [Nat.pow_succ, ← Nat.mul_assoc, Nat.mul_mod_left]
      have hvalue := (eq_or_eq_of_nearest? hone hread hm hk).resolve_right (by omega)
      exact_mod_cast hvalue

theorem value_of_roundedDecimal? (hk : k ≤ 2 ^ 53) {tie : Tie} {drop : Nat} {d : Decimal}
    (h : m.roundedDecimal? tie drop = some d) : d.value = k := by
  obtain ⟨c, hc⟩ := exists_decimal_eq hone hm
  -- Up to `c` digits these are zeros behind the point; from there on a multiple of ten is left.
  by_cases hdrop : drop ≤ c
  · have hzeros : m.decimal = ⟨k * 10 ^ (c - drop) * 10 ^ drop, -c⟩ := by
      rw [hc, Nat.mul_assoc, ← Nat.pow_add, Nat.sub_add_cancel hdrop]
    have hexponent : (-c + drop : Int) = -(c - drop : Nat) := by omega
    cases h.symm.trans (roundedDecimal?_of_zeros hzeros tie)
    rw [hexponent, Decimal.value_whole]
  · obtain ⟨j, hj⟩ : ∃ j, drop = c + (j + 1) := ⟨drop - c - 1, by omega⟩
    have hexponent : d.exponent = (j + 1 : Nat) := by
      rw [exponent_of_roundedDecimal? h, hc, hj]
      dsimp only
      omega
    exact value_eq_of_magnitude? hone hm hk hexponent (magnitude?_of_roundedDecimal? h)

theorem exists_shortest_eq (hk : k ≤ 2 ^ 53) (tie : Tie) :
    ∃ n e : Nat, m.shortest tie = ⟨n, e⟩ ∧ n * 10 ^ e = k := by
  simp only [shortest]
  generalize hfound : (List.range (decimalSize m.decimal.digits)).findSome? _ = found
  have hvalue : (found.getD m.decimal).value = k := by
    cases found with
    | none => exact value_decimal hone hm
    | some d =>
      obtain ⟨kept, -, hd⟩ := List.exists_of_findSome?_eq_some hfound
      exact value_of_roundedDecimal? hone hm hk hd
  obtain ⟨e, hexponent, hdigits⟩ := Decimal.exists_exponent_stripZeros hvalue
  exact ⟨_, e, by rw [← hexponent], hdigits⟩

/-- The digits of the shortest decimal, with zeros in the places behind them, are those of the whole
number. -/
theorem positionalText_shortest (hk : k ≤ 2 ^ 53) {l : Layout} (hl : l.point = false) :
    l.positionalText (m.shortest l.tie) = String.ofList (Nat.toDigits 10 k) := by
  obtain ⟨n, e, hshortest, rfl⟩ := exists_shortest_eq hone hm hk l.tie
  have hzero := m.exponent_shortest l.tie
  rw [hshortest] at hzero ⊢
  have hdigits : Nat.toDigits 10 (n * 10 ^ e) = Nat.toDigits 10 n ++ List.replicate e '0' := by
    by_cases hn : n = 0
    · have he : e = 0 := Int.ofNat_eq_zero.1 (hzero hn)
      rw [he, Nat.pow_zero, Nat.mul_one, List.replicate_zero, List.append_nil]
    · exact toDigits_mul_ten_pow hn e
  rw [hdigits, String.ofList_append]
  simp [Layout.positionalText, hl, Nat.repr]

end Whole

end Magnitude

end Logicless

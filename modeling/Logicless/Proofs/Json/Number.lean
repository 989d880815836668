import Logicless.Json.Reader
import Logicless.Proofs.Number.Decimal
import Logicless.Proofs.Number.Digits
import Logicless.Value.Text

namespace Logicless.Json

def NoDigit (cs : List Char) : Prop :=
  ∀ c ∈ cs.head?, c.isDigit = false

/-- What may follow an item: nothing, a comma or a bracket. -/
def Delimited (cs : List Char) : Prop :=
  ∀ c ∈ cs.head?, c = ',' ∨ c = ']' ∨ c = '}'

/-- Digits that may stand before the point: there is one at least, and a zero stands alone. -/
structure IsWhole (digits : List Char) : Prop where
  ne_nil : digits ≠ []
  isDigit : ∀ c ∈ digits, c.isDigit = true
  eq_zero : digits.head? = some '0' → digits = ['0']

theorem noDigit_cons {c : Char} (h : c.isDigit = false) (cs : List Char) : NoDigit (c :: cs) := by
  rintro d hd
  cases hd
  exact h

theorem delimited_nil : Delimited [] :=
  nofun

theorem delimited_cons {c : Char} (h : c = ',' ∨ c = ']' ∨ c = '}') (cs : List Char) :
    Delimited (c :: cs) := by
  rintro d hd
  cases hd
  exact h

theorem Delimited.noDigit {cs : List Char} (h : Delimited cs) : NoDigit cs := by
  intro c hc
  rcases h c hc with rfl | rfl | rfl <;> rfl

section Digits

variable {digits rest : List Char}

theorem takeWhile_digits (hdigits : ∀ c ∈ digits, c.isDigit = true) (hrest : NoDigit rest) :
    (digits ++ rest).takeWhile Char.isDigit = digits := by
  rw [List.takeWhile_append_of_pos hdigits]
  cases rest with
  | nil => exact List.append_nil digits
  | cons c rest => rw [List.takeWhile_cons, hrest c rfl, if_neg nofun, List.append_nil]

theorem dropWhile_digits (hdigits : ∀ c ∈ digits, c.isDigit = true) (hrest : NoDigit rest) :
    (digits ++ rest).dropWhile Char.isDigit = rest := by
  rw [List.dropWhile_append_of_pos hdigits]
  cases rest with
  | nil => rfl
  | cons c rest => rw [List.dropWhile_cons, hrest c rfl, if_neg nofun]

theorem readWhole_append (h : IsWhole digits) (hrest : NoDigit rest) :
    readWhole (digits ++ rest) = some (digits, rest) := by
  cases digits with
  | nil => exact absurd rfl h.ne_nil
  | cons c cs =>
    by_cases hc : c = '0'
    · subst hc
      rw [h.eq_zero rfl]
      rfl
    · have hdigit := h.isDigit c (.head cs)
      have hcs : ∀ d ∈ cs, d.isDigit = true := fun d hd => h.isDigit d (.tail c hd)
      rw [List.cons_append, readWhole.eq_2 _ _ hc, hdigit, if_pos rfl, takeWhile_digits hcs hrest,
        dropWhile_digits hcs hrest]

theorem readFraction_append (hne : digits ≠ []) (hdigits : ∀ c ∈ digits, c.isDigit = true)
    (hrest : NoDigit rest) :
    readFraction ('.' :: digits ++ rest) = some (digits, rest) := by
  rw [List.cons_append, readFraction, takeWhile_digits hdigits hrest,
    dropWhile_digits hdigits hrest]
  exact if_neg (by simpa using hne)

end Digits

theorem readExponent_delimited {rest : List Char} (h : Delimited rest) :
    readExponent rest = some (0, rest) := by
  cases rest with
  | nil => rfl
  | cons c rest => rcases h c rfl with rfl | rfl | rfl <;> rfl

theorem readExponentDigits_append (negative : Bool) (n : Nat) {rest : List Char}
    (hrest : NoDigit rest) :
    readExponentDigits negative (Nat.toDigits 10 n ++ rest) =
      some (if negative then -(n : Int) else n, rest) := by
  have hdigits : ∀ c ∈ Nat.toDigits 10 n, c.isDigit = true := fun _ => isDigit_of_mem_toDigits
  rw [readExponentDigits, takeWhile_digits hdigits hrest, dropWhile_digits hdigits hrest,
    digitsValue_toDigits]
  exact if_neg (by simp)

theorem readExponent_append (e : Int) {rest : List Char} (hrest : NoDigit rest) :
    readExponent ('e' :: (if 0 ≤ e then "+" else "").toList ++ (toString e).toList ++ rest) =
      some (e, rest) := by
  cases e with
  | ofNat n =>
    have htext : (toString (Int.ofNat n)).toList = Nat.toDigits 10 n := Nat.toList_repr
    rw [htext, if_pos (show 0 ≤ Int.ofNat n from Int.natCast_nonneg n)]
    exact readExponentDigits_append false n hrest
  | negSucc n =>
    have htext : (toString (Int.negSucc n)).toList = '-' :: Nat.toDigits 10 (n + 1) := by
      have hsign : toString (Int.negSucc n) = "-" ++ Nat.repr (n + 1) := rfl
      rw [hsign, String.toList_append, Nat.toList_repr]
      rfl
    rw [htext, if_neg (Int.not_le.2 (Int.negSucc_lt_zero n))]
    exact readExponentDigits_append true (n + 1) hrest

/-- Characters that read as a numeral with a point or an exponent, whatever delimits them. -/
def Spells (cs : List Char) (n : Numeral) : Prop :=
  ∀ (round : Rounding) (negative : Bool) {rest : List Char}, Delimited rest →
    readMagnitude round negative (cs ++ rest) =
      (round n).map fun m => (.real (.finite negative m), rest)

theorem readMagnitude_of_parts (round : Rounding) (negative : Bool)
    {cs cs' tail rest whole fraction : List Char} {exponent : Int}
    (hwhole : readWhole cs = some (whole, tail)) (htail : hasTail tail = true)
    (hfraction : readFraction tail = some (fraction, cs'))
    (hexponent : readExponent cs' = some (exponent, rest)) :
    readMagnitude round negative cs =
      (round ⟨whole, fraction, exponent⟩).map fun m => (.real (.finite negative m), rest) := by
  simp only [readMagnitude, hwhole, hfraction, hexponent, htail, Option.bind_eq_bind,
    Option.bind_some, if_true, Option.pure_def]
  cases round ⟨whole, fraction, exponent⟩ <;> rfl

section Parts

variable {n e : Nat}

theorem isDigit_of_mem_replicate {k : Nat} {c : Char} (h : c ∈ List.replicate k '0') :
    c.isDigit = true := by
  rw [List.eq_of_mem_replicate h]
  rfl

theorem isWhole_append_replicate (hzero : n = 0 → e = 0) :
    IsWhole (Nat.toDigits 10 n ++ List.replicate e '0') where
  ne_nil := List.append_ne_nil_of_left_ne_nil Nat.toDigits_ne_nil _
  isDigit := by
    intro c hc
    exact (List.mem_append.1 hc).elim isDigit_of_mem_toDigits isDigit_of_mem_replicate
  eq_zero := by
    intro h
    by_cases hn : n = 0
    · rw [hn, hzero hn]
      rfl
    · rw [List.head?_append, List.head?_eq_some_head Nat.toDigits_ne_nil, Option.some_or,
        ← List.head?_eq_some_head] at h
      exact absurd h (head?_toDigits_ne hn)

/-- The digits of a number with zeros before them, so that more than `e + 1` digits stand there. -/
def padded (e n : Nat) : List Char :=
  List.replicate (e + 2 - (Nat.toDigits 10 n).length) '0' ++ Nat.toDigits 10 n

theorem length_padded (e n : Nat) :
    (padded e n).length = max (e + 2) (Nat.toDigits 10 n).length := by
  rw [padded, List.length_append, List.length_replicate]
  omega

theorem isDigit_of_mem_padded {c : Char} (h : c ∈ padded e n) : c.isDigit = true :=
  (List.mem_append.1 h).elim isDigit_of_mem_replicate isDigit_of_mem_toDigits

theorem digitsValue_padded (e n : Nat) : digitsValue 0 (padded e n) = n := by
  rw [padded, digitsValue_append, digitsValue_replicate, Nat.zero_mul, digitsValue_toDigits]

theorem isWhole_take_padded (hn : n ≠ 0) :
    IsWhole ((padded e n).take ((padded e n).length - (e + 1))) where
  ne_nil := by
    have hlength := length_padded e n
    rw [ne_eq, ← List.length_eq_zero_iff, List.length_take]
    omega
  isDigit := fun _ hc => isDigit_of_mem_padded (List.mem_of_mem_take hc)
  eq_zero := by
    intro h
    by_cases hlt : (Nat.toDigits 10 n).length < e + 2
    · obtain ⟨k, hk⟩ := Nat.exists_eq_succ_of_ne_zero (Nat.sub_ne_zero_of_lt hlt)
      have hone : (padded e n).length - (e + 1) = 1 := by
        rw [length_padded]
        omega
      rw [hone, padded, hk]
      rfl
    · have hpos : (padded e n).length - (e + 1) ≠ 0 := by
        rw [length_padded]
        omega
      rw [List.head?_take, if_neg hpos, padded, Nat.sub_eq_zero_of_le (Nat.not_lt.1 hlt)] at h
      exact absurd h (head?_toDigits_ne hn)

theorem isWhole_head {c : Char} {cs : List Char} (hn : n ≠ 0)
    (hdigits : Nat.toDigits 10 n = c :: cs) : IsWhole [c] where
  ne_nil := nofun
  isDigit := by
    intro d hd
    apply isDigit_of_mem_toDigits (n := n)
    rw [hdigits, List.mem_singleton.1 hd]
    exact .head cs
  eq_zero := by
    intro h
    have hne := head?_toDigits_ne hn
    rw [hdigits] at hne
    exact absurd h hne

end Parts

/-- Characters spell a numeral whose nearest magnitude is this one. -/
def SpellsNearest (cs : List Char) (m : Magnitude) : Prop :=
  ∃ n : Numeral, Spells cs n ∧ n.nearest? = some m

section Text

variable {m : Magnitude} {n : Nat}

theorem spellsNearest_whole {e : Nat} (hzero : n = 0 → e = 0)
    (hm : Decimal.magnitude? ⟨n, e⟩ = some m) :
    SpellsNearest (Nat.toDigits 10 n ++ List.replicate e '0' ++ ['.', '0']) m := by
  refine ⟨⟨Nat.toDigits 10 n ++ List.replicate e '0', ['0'], 0⟩, ?_, ?_⟩
  · intro round negative rest hrest
    have hwhole := readWhole_append (isWhole_append_replicate hzero)
      (noDigit_cons (c := '.') rfl ('0' :: rest))
    have hfraction : readFraction ('.' :: '0' :: rest) = some (['0'], rest) :=
      readFraction_append (List.cons_ne_nil '0' []) (by simp) hrest.noDigit
    rw [List.append_assoc]
    exact readMagnitude_of_parts round negative hwhole rfl hfraction (readExponent_delimited hrest)
  · have hvalue : digitsValue (n * 10 ^ e) ['0'] = n * 10 ^ (e + 1) := (Nat.mul_assoc ..).trans rfl
    have hexponent : 0 - (['0'].length : Int) = e - (e + 1 : Nat) := by
      rw [List.length_singleton]
      omega
    rw [Numeral.nearest?, digitsValue_append, digitsValue_toDigits, digitsValue_replicate, hvalue,
      hexponent, Decimal.magnitude?_mul_pow, hm]

theorem spellsNearest_fraction {e : Nat} (hn : n ≠ 0)
    (hm : Decimal.magnitude? ⟨n, .negSucc e⟩ = some m) :
    SpellsNearest ((padded e n).take ((padded e n).length - (e + 1)) ++
      '.' :: (padded e n).drop ((padded e n).length - (e + 1))) m := by
  have hlength : ((padded e n).drop ((padded e n).length - (e + 1))).length = e + 1 := by
    have hpadded := length_padded e n
    rw [List.length_drop]
    omega
  refine ⟨⟨(padded e n).take ((padded e n).length - (e + 1)),
    (padded e n).drop ((padded e n).length - (e + 1)), 0⟩, ?_, ?_⟩
  · intro round negative rest hrest
    have hfraction := readFraction_append (List.ne_nil_of_length_eq_add_one hlength)
      (fun _ hc => isDigit_of_mem_padded (List.mem_of_mem_drop hc)) hrest.noDigit
    have hwhole := readWhole_append (isWhole_take_padded (e := e) hn)
      (noDigit_cons (c := '.') rfl ((padded e n).drop ((padded e n).length - (e + 1)) ++ rest))
    rw [List.append_assoc]
    exact readMagnitude_of_parts round negative hwhole rfl hfraction (readExponent_delimited hrest)
  · have hexponent : 0 - ((e + 1 : Nat) : Int) = .negSucc e := by omega
    rw [Numeral.nearest?, ← digitsValue_append, List.take_append_drop, digitsValue_padded, hlength,
      hexponent, hm]

theorem spellsNearest_exponent {x : Int} {c : Char} {cs : List Char} (hn : n ≠ 0)
    (hdigits : Nat.toDigits 10 n = c :: cs)
    (hm : Decimal.magnitude? ⟨n, x - cs.length⟩ = some m) :
    SpellsNearest (c :: (if cs = [] then [] else '.' :: cs) ++
      ('e' :: (if 0 ≤ x then "+" else "").toList ++ (toString x).toList)) m := by
  refine ⟨⟨[c], cs, x⟩, ?_, ?_⟩
  · intro round negative rest hrest
    have hwhole {tail} (htail : NoDigit tail) := readWhole_append (isWhole_head hn hdigits) htail
    have hexponent := readExponent_append x hrest.noDigit
    rw [List.append_assoc]
    by_cases hnil : cs = []
    · subst hnil
      exact readMagnitude_of_parts round negative (hwhole (noDigit_cons rfl _)) rfl rfl hexponent
    · have hcs : ∀ d ∈ cs, d.isDigit = true := by
        intro d hd
        apply isDigit_of_mem_toDigits (n := n)
        rw [hdigits]
        exact .tail c hd
      rw [if_neg hnil]
      exact readMagnitude_of_parts round negative (hwhole (noDigit_cons rfl _)) rfl
        (readFraction_append hnil hcs (noDigit_cons rfl _)) hexponent
  · have hvalue : digitsValue (digitsValue 0 [c]) cs = n := by
      rw [← digitsValue_append, List.singleton_append, ← hdigits, digitsValue_toDigits]
    rw [Numeral.nearest?, hvalue, hm]

end Text

theorem spellsNearest_positionalText (m : Magnitude) :
    SpellsNearest (Layout.json.positionalText (m.shortest .toEven)).toList m := by
  have hm := m.magnitude?_shortest .toEven
  have hzero := m.exponent_shortest .toEven
  generalize m.shortest .toEven = d at hm hzero ⊢
  obtain ⟨n, e⟩ := d
  cases e with
  | ofNat e =>
    have htext : (Layout.json.positionalText ⟨n, .ofNat e⟩).toList =
        Nat.toDigits 10 n ++ List.replicate e '0' ++ ['.', '0'] := by
      simp [Layout.positionalText, Layout.json]
    rw [htext]
    exact spellsNearest_whole (fun hn => Int.ofNat_eq_zero.1 (hzero hn)) hm
  | negSucc e =>
    have hn : n ≠ 0 := fun hn => absurd (hzero hn) (Int.negSucc_ne_zero e)
    have hlength : (Nat.repr n).length = (Nat.toDigits 10 n).length := by
      rw [← String.length_toList, Nat.toList_repr]
    simpa [Layout.positionalText, hlength, padded] using spellsNearest_fraction hn hm

theorem toList_exponentText {n : Nat} {c : Char} {cs : List Char}
    (hdigits : Nat.toDigits 10 n = c :: cs) (e x : Int) :
    (Layout.json.exponentText ⟨n, e⟩ x).toList =
      c :: (if cs = [] then [] else '.' :: cs) ++
        ('e' :: (if 0 ≤ x then "+" else "").toList ++ (toString x).toList) := by
  rw [Layout.exponentText, Nat.toList_repr, hdigits]
  cases cs <;> simp [Layout.json]

theorem spellsNearest_exponentText {m : Magnitude} (hne : m.significand ≠ 0) :
    SpellsNearest (Layout.json.exponentText (m.shortest .toEven)
      ((m.shortest .toEven).exponent + decimalSize (m.shortest .toEven).digits - 1)).toList m := by
  have hm := m.magnitude?_shortest .toEven
  have hn := m.digits_shortest_ne_zero hne .toEven
  generalize m.shortest .toEven = d at hm hn ⊢
  obtain ⟨n, e⟩ := d
  obtain ⟨c, cs, hdigits⟩ := List.exists_cons_of_ne_nil (Nat.toDigits_ne_nil (n := n) (b := 10))
  have hsize : decimalSize n = cs.length + 1 := by
    rw [decimalSize_eq_length, ← String.length_toList, Nat.toList_repr, hdigits, List.length_cons]
  have hexponent : e + (decimalSize n : Int) - 1 - cs.length = e := by
    rw [hsize]
    omega
  rw [toList_exponentText hdigits]
  apply spellsNearest_exponent hn hdigits
  rw [hexponent, hm]

/-- The text of a magnitude is a numeral to which nothing is nearer. -/
theorem spellsNearest_magnitudeText (m : Magnitude) :
    SpellsNearest (Layout.json.magnitudeText m).toList m := by
  rw [Layout.magnitudeText]
  split
  · exact spellsNearest_positionalText m
  · next hexponent =>
    apply spellsNearest_exponentText
    intro hzero
    rw [hzero] at hexponent
    exact hexponent rfl

end Logicless.Json

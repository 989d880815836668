import Logicless.Proofs.Json.Number
import Logicless.Proofs.Value.Document

namespace Logicless.Json

theorem codeUnit?_digitChar : ∀ n < 0x20,
    codeUnit? '0' '0' (Nat.digitChar (n / 16)) (Nat.digitChar (n % 16)) = some n := by
  decide

theorem readQuoted_unicodeEscape {a b c d : Char} {unit : Nat}
    (h : codeUnit? a b c d = some unit) (hlt : unit < 0xD800) (cs : List Char) :
    readQuoted ('\\' :: 'u' :: a :: b :: c :: d :: cs) =
      (readQuoted cs).map fun (s, rest) => (Char.ofNat unit :: s, rest) := by
  have hlow : (0xDC00 ≤ unit && unit < 0xE000) = false := by simp; omega
  have hhigh : (0xD800 ≤ unit && unit < 0xDC00) = false := by simp; omega
  simp only [readQuoted, h, hlow, hhigh, Bool.false_eq_true, if_false]

theorem readQuoted_plain {c : Char} (hquote : c ≠ '"') (hslash : c ≠ '\\')
    (hcontrol : ¬ c.toNat < 0x20) (cs : List Char) :
    readQuoted (c :: cs) = (readQuoted cs).map fun (s, rest) => (c :: s, rest) := by
  rw [readQuoted]
  · simp [hcontrol, hslash]
  all_goals simp [hquote, hslash]

theorem readQuoted_quotedChar (c : Char) (cs : List Char) :
    readQuoted (quotedChar c ++ cs) = (readQuoted cs).map fun (s, rest) => (c :: s, rest) := by
  unfold quotedChar
  -- Seven characters have an escape of one letter, which the reader looks up.
  split
  · rfl
  · rfl
  · rfl
  · rfl
  · rfl
  · rfl
  · rfl
  · next hquote hslash _ _ _ _ _ =>
    split
    · next hcontrol =>
      have hunit := codeUnit?_digitChar c.toNat hcontrol
      have hread := readQuoted_unicodeEscape hunit (by omega) cs
      rwa [Char.ofNat_toNat] at hread
    · next hcontrol => exact readQuoted_plain hquote hslash hcontrol cs

theorem readQuoted_quoted (cs rest : List Char) :
    readQuoted (cs.flatMap quotedChar ++ '"' :: rest) = some (cs, rest) := by
  induction cs with
  | nil => rfl
  | cons c cs ih =>
    rw [List.flatMap_cons, List.append_assoc, readQuoted_quotedChar, ih]
    rfl

theorem exists_digit_of_readMagnitude {round : Rounding} {negative : Bool} {cs rest : List Char}
    {j : Json} (h : readMagnitude round negative cs = some (j, rest)) :
    ∃ c ds, cs = c :: ds ∧ c.isDigit = true := by
  cases cs with
  | nil => cases h
  | cons c ds =>
    by_cases hdigit : c.isDigit = true
    · exact ⟨c, ds, rfl, hdigit⟩
    · have hzero : c ≠ '0' := by
        rintro rfl
        exact hdigit rfl
      rw [readMagnitude, readWhole.eq_2 _ _ hzero, if_neg hdigit] at h
      cases h

theorem readScalar_digit (round : Rounding) {c : Char} (h : c.isDigit = true) (cs : List Char) :
    readScalar round (c :: cs) = readMagnitude round false (c :: cs) := by
  rw [readScalar]
  all_goals
    intro _ heq
    cases heq
    exact absurd h (by decide)

def StartsScalar (c : Char) : Prop :=
  isBlank c = false ∧ c ≠ '[' ∧ c ≠ '{' ∧ c ≠ ']'

instance (c : Char) : Decidable (StartsScalar c) :=
  inferInstanceAs (Decidable (_ ∧ _ ∧ _ ∧ _))

theorem startsScalar_of_isDigit {c : Char} (h : c.isDigit = true) : StartsScalar c := by
  refine ⟨?_, ?_, ?_, ?_⟩
  · cases hblank : isBlank c with
    | false => rfl
    | true =>
      simp only [isBlank, Bool.or_eq_true, beq_iff_eq] at hblank
      rcases hblank with ((rfl | rfl) | rfl) | rfl <;> exact absurd h (by decide)
  all_goals
    rintro rfl
    exact absurd h (by decide)

theorem exists_digit_magnitudeText (m : Magnitude) :
    ∃ c cs, (Layout.json.magnitudeText m).toList = c :: cs ∧ c.isDigit = true := by
  obtain ⟨n, hspells, hm⟩ := spellsNearest_magnitudeText m
  have hread := hspells Numeral.nearest? false delimited_nil
  rw [List.append_nil, hm] at hread
  exact exists_digit_of_readMagnitude hread

theorem jsonChars_finite (negative : Bool) (m : Magnitude) :
    (Value.number (.finite negative m)).jsonChars =
      (if negative then ['-'] else []) ++ (Layout.json.magnitudeText m).toList := by
  cases negative <;> simp [Value.jsonChars, Layout.text]

/-- The text of a finite number reads as a sign and a numeral, whatever way that is rounded. -/
theorem exists_numeral_readScalar (negative : Bool) (m : Magnitude) :
    ∃ n : Numeral, n.nearest? = some m ∧ ∀ (round : Rounding) {rest : List Char}, Delimited rest →
      readScalar round ((Value.number (.finite negative m)).jsonChars ++ rest) =
        (round n).map fun q => (.real (.finite negative q), rest) := by
  obtain ⟨n, hspells, hm⟩ := spellsNearest_magnitudeText m
  refine ⟨n, hm, ?_⟩
  intro round rest hrest
  have hread := hspells round negative hrest
  rw [jsonChars_finite]
  cases negative with
  | true => exact hread
  | false =>
    obtain ⟨c, cs, hchars, hdigit⟩ := exists_digit_magnitudeText m
    rw [hchars] at hread ⊢
    exact (readScalar_digit round hdigit (cs ++ rest)).trans hread

theorem startsScalar_number (n : Number) :
    ∃ c cs, (Value.number n).jsonChars = c :: cs ∧ StartsScalar c := by
  cases n with
  | nan => exact ⟨_, _, rfl, by decide⟩
  | infinite negative => cases negative <;> exact ⟨_, _, rfl, by decide⟩
  | finite negative m =>
    rw [jsonChars_finite]
    cases negative with
    | true => exact ⟨_, _, rfl, by decide⟩
    | false =>
      obtain ⟨c, cs, hchars, hdigit⟩ := exists_digit_magnitudeText m
      exact ⟨c, cs, hchars, startsScalar_of_isDigit hdigit⟩

theorem startsScalar_jsonChars {v : Value} (hv : v.depth = 0) :
    ∃ c cs, v.jsonChars = c :: cs ∧ StartsScalar c := by
  cases v with
  | null => exact ⟨_, _, rfl, by decide⟩
  | bool b => cases b <;> exact ⟨_, _, rfl, by decide⟩
  | number n => exact startsScalar_number n
  | string s => exact ⟨_, _, rfl, by decide⟩
  | sequence items => cases hv
  | mapping entries => cases hv

theorem skipBlanks_cons {c : Char} (h : isBlank c = false) (cs : List Char) :
    skipBlanks (c :: cs) = c :: cs := by
  rw [skipBlanks, List.dropWhile_cons, h, if_neg nofun]

theorem readDocument_scalar (round : Rounding) (depth : Nat) {c : Char} (h : StartsScalar c)
    (cs : List Char) : readDocument round depth (c :: cs) = readScalar round (c :: cs) := by
  obtain ⟨hblank, hbracket, hbrace, -⟩ := h
  cases depth with
  | zero => rw [readDocument, skipBlanks_cons hblank]
  | succ depth =>
    rw [readDocument, skipBlanks_cons hblank]
    split
    · next heq => cases heq; exact absurd rfl hbracket
    · next heq => cases heq; exact absurd rfl hbrace
    · rfl

theorem readDocument_eq_readScalar (round : Rounding) (depth : Nat) {v : Value} (hv : v.depth = 0)
    (rest : List Char) :
    readDocument round depth (v.jsonChars ++ rest) = readScalar round (v.jsonChars ++ rest) := by
  obtain ⟨c, cs, hchars, hc⟩ := startsScalar_jsonChars hv
  rw [hchars]
  exact readDocument_scalar round depth hc (cs ++ rest)

/-- The text of a number stands for the number, or for null if the number is not finite. -/
def ReadsBack (round : Rounding) (n : Number) : Prop :=
  parseBy? round 0 (Value.number n).json = some (Value.number n).document

theorem parseBy?_eq_of_readDocument {round : Rounding} {depth : Nat} {v : Value} {json : Json}
    (h : readDocument round depth v.jsonChars = some (json, [])) :
    parseBy? round depth v.json = some json := by
  rw [parseBy?, Value.json, String.toList_ofList, h]
  rfl

theorem readsBack_nearest (n : Number) : ReadsBack Numeral.nearest? n := by
  apply parseBy?_eq_of_readDocument
  have hdepth : (Value.number n).depth = 0 := rfl
  have hscalar := readDocument_eq_readScalar Numeral.nearest? 0 hdepth []
  rw [List.append_nil] at hscalar
  rw [hscalar]
  cases n with
  | nan => rfl
  | infinite negative => cases negative <;> rfl
  | finite negative m =>
    obtain ⟨numeral, hm, hread⟩ := exists_numeral_readScalar negative m
    have hread := hread Numeral.nearest? delimited_nil
    rw [List.append_nil, hm] at hread
    exact hread

/-- A number that reads back by itself does so in front of what may follow an item. -/
theorem ReadsBack.readScalar_eq {round : Rounding} {n : Number} (h : ReadsBack round n)
    {rest : List Char} (hrest : Delimited rest) :
    readScalar round ((Value.number n).jsonChars ++ rest) =
      some ((Value.number n).document, rest) := by
  cases n with
  | nan => rfl
  | infinite negative => cases negative <;> rfl
  | finite negative m =>
    obtain ⟨numeral, -, hread⟩ := exists_numeral_readScalar negative m
    have hdepth : (Value.number (.finite negative m)).depth = 0 := rfl
    have halone := readDocument_eq_readScalar round 0 hdepth []
    rw [hread round delimited_nil, List.append_nil] at halone
    rw [ReadsBack, parseBy?, Value.json, String.toList_ofList, halone] at h
    rw [hread round hrest]
    cases hround : round numeral with
    | none =>
      rw [hround] at h
      cases h
    | some q =>
      rw [hround] at h
      cases h
      rfl

theorem readScalar_jsonChars {round : Rounding} {v : Value} (hv : v.depth = 0)
    (hnumbers : ∀ n ∈ v.numbers, ReadsBack round n) {rest : List Char} (hrest : Delimited rest) :
    readScalar round (v.jsonChars ++ rest) = some (v.document, rest) := by
  cases v with
  | null => rfl
  | bool b => cases b <;> rfl
  | number n => exact (hnumbers n (.head _)).readScalar_eq hrest
  | string s =>
    have hread := readQuoted_quoted s.toList rest
    rw [Value.jsonChars, quotedChars, List.append_assoc, List.cons_append, List.singleton_append,
      readScalar, hread, Option.map_some]
    dsimp only
    rw [String.ofList_toList, Value.document]
  | sequence items => cases hv
  | mapping entries => cases hv

theorem readDocument_of_depth_eq_zero {round : Rounding} (depth : Nat) {v : Value}
    (hv : v.depth = 0) (hnumbers : ∀ n ∈ v.numbers, ReadsBack round n) {rest : List Char}
    (hrest : Delimited rest) :
    readDocument round depth (v.jsonChars ++ rest) = some (v.document, rest) :=
  (readDocument_eq_readScalar round depth hv rest).trans (readScalar_jsonChars hv hnumbers hrest)

theorem readDocument_array (round : Rounding) (depth : Nat) {c : Char}
    (hblank : isBlank c = false) (hc : c ≠ ']') (cs : List Char) :
    readDocument round (depth + 1) ('[' :: c :: cs) =
      (readItems (readDocument round depth) (cs.length + 1) (c :: cs)).map
        fun (js, rest) => (.array js, rest) := by
  have hopen := skipBlanks_cons (c := '[') rfl (c :: cs)
  simp only [readDocument, hopen, skipBlanks_cons hblank]
  split
  · next heq => cases heq; exact absurd rfl hc
  · rfl

theorem readDocument_object (round : Rounding) (depth : Nat) {c : Char}
    (hblank : isBlank c = false) (hc : c ≠ '}') (cs : List Char) :
    readDocument round (depth + 1) ('{' :: c :: cs) =
      (readMembers (readDocument round depth) (cs.length + 1) (c :: cs)).map
        fun (ms, rest) => (.object ms, rest) := by
  have hopen := skipBlanks_cons (c := '{') rfl (c :: cs)
  simp only [readDocument, hopen, skipBlanks_cons hblank]
  split
  · next heq => cases heq; exact absurd rfl hc
  · rfl

theorem jsonItems_cons_cons (v w : Value) (vs : List Value) :
    Value.jsonItems (v :: w :: vs) = v.jsonChars ++ ',' :: Value.jsonItems (w :: vs) :=
  rfl

theorem jsonEntries_cons_cons (k : String) (v : Value) (e : String × Value)
    (es : List (String × Value)) :
    Value.jsonEntries ((k, v) :: e :: es) =
      quotedChars k ++ ':' :: v.jsonChars ++ ',' :: Value.jsonEntries (e :: es) :=
  rfl

theorem length_le_jsonItems (items : List Value) :
    items.length ≤ (Value.jsonItems items).length + 1 := by
  induction items with
  | nil => exact Nat.zero_le _
  | cons v vs ih =>
    cases vs with
    | nil => exact Nat.le_add_left 1 _
    | cons w vs =>
      simp only [jsonItems_cons_cons, List.length_append, List.length_cons] at ih ⊢
      omega

theorem length_le_jsonEntries (entries : List (String × Value)) :
    entries.length ≤ (Value.jsonEntries entries).length + 1 := by
  induction entries with
  | nil => exact Nat.zero_le _
  | cons e es ih =>
    obtain ⟨k, v⟩ := e
    cases es with
    | nil => exact Nat.le_add_left 1 _
    | cons e es =>
      simp only [jsonEntries_cons_cons, List.length_append, List.length_cons] at ih ⊢
      omega

theorem readKey_quoted (key : String) (cs : List Char) :
    readKey (quotedChars key ++ ':' :: cs) = some (key, cs) := by
  have hread := readQuoted_quoted key.toList (':' :: cs)
  rw [quotedChars, List.append_assoc, List.cons_append, readKey, skipBlanks_cons (by rfl)]
  simp [hread, skipBlanks_cons (c := ':') rfl]

section Read

variable {read : List Char → Option (Json × List Char)} (rest : List Char)

theorem readItems_jsonItems {items : List Value} (hne : items ≠ [])
    (hread : ∀ v ∈ items, ∀ rest, Delimited rest →
      read (v.jsonChars ++ rest) = some (v.document, rest)) {fuel : Nat}
    (hfuel : items.length ≤ fuel) :
    readItems read fuel (Value.jsonItems items ++ ']' :: rest) =
      some (Value.documentItems items, rest) := by
  induction items generalizing fuel with
  | nil => exact absurd rfl hne
  | cons v vs ih =>
    obtain ⟨fuel, rfl⟩ := Nat.exists_eq_add_one_of_ne_zero (Nat.ne_zero_of_lt hfuel)
    have hv {rest} := hread v (.head vs) rest
    cases vs with
    | nil =>
      simp only [readItems, Value.jsonItems, hv (delimited_cons (.inr (.inl rfl)) _),
        Option.bind_eq_bind, Option.bind_some, skipBlanks_cons (c := ']') rfl]
      rfl
    | cons w vs =>
      have hvs := ih (List.cons_ne_nil w vs) (fun u hu => hread u (.tail v hu))
        (Nat.le_of_succ_le_succ hfuel)
      simp only [readItems, jsonItems_cons_cons, List.append_assoc, List.cons_append,
        hv (delimited_cons (.inl rfl) _), Option.bind_eq_bind, Option.bind_some,
        skipBlanks_cons (c := ',') rfl, hvs]
      rfl

theorem readMembers_jsonEntries {entries : List (String × Value)} (hne : entries ≠ [])
    (hread : ∀ e ∈ entries, ∀ rest, Delimited rest →
      read (e.2.jsonChars ++ rest) = some (e.2.document, rest)) {fuel : Nat}
    (hfuel : entries.length ≤ fuel) :
    readMembers read fuel (Value.jsonEntries entries ++ '}' :: rest) =
      some (Value.documentMembers entries, rest) := by
  induction entries generalizing fuel with
  | nil => exact absurd rfl hne
  | cons e es ih =>
    obtain ⟨fuel, rfl⟩ := Nat.exists_eq_add_one_of_ne_zero (Nat.ne_zero_of_lt hfuel)
    obtain ⟨k, v⟩ := e
    have hv {rest} := hread (k, v) (.head es) rest
    cases es with
    | nil =>
      simp only [readMembers, Value.jsonEntries, List.append_assoc, List.cons_append,
        readKey_quoted, hv (delimited_cons (.inr (.inr rfl)) _), Option.bind_eq_bind,
        Option.bind_some, skipBlanks_cons (c := '}') rfl]
      rfl
    | cons e es =>
      have hes := ih (List.cons_ne_nil e es) (fun f hf => hread f (.tail _ hf))
        (Nat.le_of_succ_le_succ hfuel)
      simp only [readMembers, jsonEntries_cons_cons, List.append_assoc, List.cons_append,
        readKey_quoted, hv (delimited_cons (.inl rfl) _), Option.bind_eq_bind, Option.bind_some,
        skipBlanks_cons (c := ',') rfl, hes]
      rfl

end Read

theorem exists_cons_jsonChars (v : Value) :
    ∃ c cs, v.jsonChars = c :: cs ∧ isBlank c = false ∧ c ≠ ']' := by
  by_cases hv : v.depth = 0
  · obtain ⟨c, cs, hchars, hblank, -, -, hc⟩ := startsScalar_jsonChars hv
    exact ⟨c, cs, hchars, hblank, hc⟩
  · cases v with
    | sequence items => exact ⟨_, _, rfl, rfl, by decide⟩
    | mapping entries => exact ⟨_, _, rfl, rfl, by decide⟩
    | null | bool _ | number _ | string _ => exact absurd rfl hv

theorem exists_cons_jsonItems (v : Value) (vs : List Value) :
    ∃ c cs, Value.jsonItems (v :: vs) = c :: cs ∧ isBlank c = false ∧ c ≠ ']' := by
  obtain ⟨c, cs, hchars, hc⟩ := exists_cons_jsonChars v
  cases vs with
  | nil => exact ⟨c, cs, hchars, hc⟩
  | cons w vs =>
    rw [jsonItems_cons_cons, hchars]
    exact ⟨c, _, rfl, hc⟩

theorem exists_cons_jsonEntries (e : String × Value) (es : List (String × Value)) :
    ∃ cs, Value.jsonEntries (e :: es) = '"' :: cs := by
  cases es with
  | nil => exact ⟨_, rfl⟩
  | cons f es => exact ⟨_, rfl⟩

theorem readDocument_sequence {round : Rounding} {depth : Nat} {items : List Value}
    (hread : ∀ v ∈ items, ∀ rest, Delimited rest →
      readDocument round depth (v.jsonChars ++ rest) = some (v.document, rest)) (rest : List Char) :
    readDocument round (depth + 1) ((Value.sequence items).jsonChars ++ rest) =
      some ((Value.sequence items).document, rest) := by
  cases items with
  | nil => rfl
  | cons v vs =>
    obtain ⟨c, cs, hchars, hblank, hc⟩ := exists_cons_jsonItems v vs
    have hfuel : (v :: vs).length ≤ (cs ++ ']' :: rest).length + 1 := by
      have hlength := length_le_jsonItems (v :: vs)
      rw [hchars] at hlength
      simp only [List.length_cons, List.length_append] at hlength ⊢
      omega
    have hitems := readItems_jsonItems rest (List.cons_ne_nil v vs) hread hfuel
    rw [hchars, List.cons_append] at hitems
    rw [Value.jsonChars, hchars, List.append_assoc, List.singleton_append, List.cons_append,
      List.cons_append, readDocument_array round depth hblank hc, hitems]
    rfl

theorem readDocument_mapping {round : Rounding} {depth : Nat}
    {entries : List (String × Value)}
    (hread : ∀ e ∈ entries, ∀ rest, Delimited rest →
      readDocument round depth (e.2.jsonChars ++ rest) = some (e.2.document, rest))
    (rest : List Char) :
    readDocument round (depth + 1) ((Value.mapping entries).jsonChars ++ rest) =
      some ((Value.mapping entries).document, rest) := by
  cases entries with
  | nil => rfl
  | cons e es =>
    obtain ⟨cs, hchars⟩ := exists_cons_jsonEntries e es
    have hfuel : (e :: es).length ≤ (cs ++ '}' :: rest).length + 1 := by
      have hlength := length_le_jsonEntries (e :: es)
      rw [hchars] at hlength
      simp only [List.length_cons, List.length_append] at hlength ⊢
      omega
    have hmembers := readMembers_jsonEntries rest (List.cons_ne_nil e es) hread hfuel
    rw [hchars, List.cons_append] at hmembers
    rw [Value.jsonChars, hchars, List.append_assoc, List.singleton_append, List.cons_append,
      List.cons_append, readDocument_object round depth (by rfl) (by decide), hmembers]
    rfl

/-- The text of a value reads as its document, if it nests no deeper than what is read, and if its
numbers read back. -/
theorem readDocument_jsonChars {round : Rounding} {depth : Nat} {v : Value}
    (hdepth : v.depth ≤ depth) (hnumbers : ∀ n ∈ v.numbers, ReadsBack round n) {rest : List Char}
    (hrest : Delimited rest) :
    readDocument round depth (v.jsonChars ++ rest) = some (v.document, rest) := by
  induction depth generalizing v rest with
  | zero => exact readDocument_of_depth_eq_zero 0 (Nat.le_zero.1 hdepth) hnumbers hrest
  | succ depth ih =>
    cases v with
    | sequence items =>
      apply readDocument_sequence
      intro v hv rest hrest
      have hle := Value.depth_le_depthItems hv
      have hmem (n : Number) (hn : n ∈ v.numbers) : ReadsBack round n :=
        hnumbers n (Value.mem_numbersItems hv hn)
      exact ih (Nat.le_trans hle (Nat.le_of_succ_le_succ hdepth)) hmem hrest
    | mapping entries =>
      apply readDocument_mapping
      intro e he rest hrest
      have hle := Value.depth_le_depthEntries he
      have hmem (n : Number) (hn : n ∈ e.2.numbers) : ReadsBack round n :=
        hnumbers n (Value.mem_numbersEntries he hn)
      exact ih (Nat.le_trans hle (Nat.le_of_succ_le_succ hdepth)) hmem hrest
    | null | bool _ | number _ | string _ =>
      exact readDocument_of_depth_eq_zero _ rfl hnumbers hrest

theorem parseBy?_json {round : Rounding} {depth : Nat} {v : Value} (hdepth : v.depth ≤ depth)
    (hnumbers : ∀ n ∈ v.numbers, ReadsBack round n) :
    parseBy? round depth v.json = some v.document := by
  have hread := readDocument_jsonChars hdepth hnumbers delimited_nil
  rw [List.append_nil] at hread
  exact parseBy?_eq_of_readDocument hread

end Logicless.Json

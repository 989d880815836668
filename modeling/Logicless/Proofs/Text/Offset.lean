import Logicless.Text.Cut

namespace Logicless.Text

theorem utf8ByteSize_ofList (cs : List Char) : (String.ofList cs).utf8ByteSize = byteLength cs := by
  induction cs with
  | nil => rfl
  | cons c cs ih =>
    have hc : (String.ofList [c]).utf8ByteSize = c.utf8Size := String.utf8ByteSize_singleton
    rw [← List.singleton_append, String.ofList_append, String.utf8ByteSize_append, hc, ih]
    rfl

theorem byteLength_toList (s : String) : byteLength s.toList = s.utf8ByteSize := by
  rw [← utf8ByteSize_ofList, String.ofList_toList]

/-- The bytes of the source from one offset up to another are those of the slice, and both offsets
lie between characters. -/
structure StandsAt (source : String) (start stop : Nat) (slice : String) : Prop where
  start_valid : String.Pos.Raw.IsValid source ⟨start⟩
  stop_valid : String.Pos.Raw.IsValid source ⟨stop⟩
  start_le_stop : start ≤ stop
  bytes : source.toByteArray.extract start stop = slice.toByteArray

theorem StandsAt.unique {source : String} {start stop : Nat} {a b : String}
    (ha : StandsAt source start stop a) (hb : StandsAt source start stop b) : a = b :=
  String.toByteArray_inj.1 (ha.bytes.symm.trans hb.bytes)

theorem exists_append_of_isValid {source : String} {offset : Nat}
    (h : String.Pos.Raw.IsValid source ⟨offset⟩) :
    ∃ before after, source = before ++ after ∧ before.utf8ByteSize = offset := by
  obtain ⟨before, after, heq, hp⟩ := String.Pos.Raw.isValid_iff_exists_append.1 h
  exact ⟨before, after, heq, (congrArg String.Pos.Raw.byteIdx hp).symm⟩

theorem isValid_append (before after : String) :
    String.Pos.Raw.IsValid (before ++ after) ⟨before.utf8ByteSize⟩ :=
  String.Pos.Raw.isValid_iff_exists_append.2 ⟨before, after, rfl, rfl⟩

theorem exists_eq_append_of_utf8ByteSize_le {a b c d : String} (h : a ++ b = c ++ d)
    (hle : a.utf8ByteSize ≤ c.utf8ByteSize) : ∃ t, c = a ++ t := by
  have heq : a.toList ++ b.toList = c.toList ++ d.toList := by
    rw [← String.toList_append, h, String.toList_append]
  rcases List.append_eq_append_iff.1 heq with ⟨t, hc, -⟩ | ⟨t, ha, -⟩
  · refine ⟨String.ofList t, String.toList_inj.1 ?_⟩
    rw [hc, String.toList_append, String.toList_ofList]
  · have hbytes := congrArg byteLength ha
    have hc := byteLength_toList c
    have ha' := byteLength_toList a
    rw [byteLength_append] at hbytes
    have ht : (String.ofList t).utf8ByteSize = 0 := by
      rw [utf8ByteSize_ofList]
      omega
    have hnil : t = [] := by
      rw [String.utf8ByteSize_eq_zero_iff] at ht
      simpa using congrArg String.toList ht
    refine ⟨"", String.toList_inj.1 ?_⟩
    rw [String.append_empty, ha, hnil, List.append_nil]

theorem standsAt_append (before slice after : String) :
    StandsAt (before ++ (slice ++ after)) before.utf8ByteSize
      (before.utf8ByteSize + slice.utf8ByteSize) slice := by
  refine ⟨isValid_append .., ?_, Nat.le_add_right .., ?_⟩
  · have hvalid := isValid_append (before ++ slice) after
    rwa [String.append_assoc, String.utf8ByteSize_append] at hvalid
  · have hbytes := ByteArray.extract_append_size_add' (a := before.toByteArray)
      (b := slice.toByteArray ++ after.toByteArray) (i := 0) (j := slice.utf8ByteSize) rfl
    rw [String.toByteArray_append, String.toByteArray_append]
    exact hbytes.trans (ByteArray.extract_append_eq_left rfl)

/-- Behind the beginning of a text stands what the rest of the text begins with. -/
theorem standsAt_append_iff {before rest slice : String} {stop : Nat} :
    StandsAt (before ++ rest) before.utf8ByteSize stop slice ↔
      ∃ after, rest = slice ++ after ∧ stop = before.utf8ByteSize + slice.utf8ByteSize := by
  constructor
  · intro h
    obtain ⟨front, back, hsource, hstop⟩ := exists_append_of_isValid h.stop_valid
    have hle : before.utf8ByteSize ≤ front.utf8ByteSize := hstop ▸ h.start_le_stop
    obtain ⟨middle, rfl⟩ := exists_eq_append_of_utf8ByteSize_le hsource hle
    rw [String.append_assoc, String.append_right_inj] at hsource
    rw [String.utf8ByteSize_append] at hstop
    have hmiddle := standsAt_append before middle back
    rw [hstop, ← hsource] at hmiddle
    cases hmiddle.unique h
    exact ⟨back, hsource, hstop.symm⟩
  · rintro ⟨after, rfl, rfl⟩
    exact standsAt_append before slice after

theorem StandsAt.stop_eq {source slice : String} {start stop : Nat}
    (h : StandsAt source start stop slice) : stop = start + slice.utf8ByteSize := by
  obtain ⟨before, rest, rfl, rfl⟩ := exists_append_of_isValid h.start_valid
  obtain ⟨-, -, hstop⟩ := standsAt_append_iff.1 h
  exact hstop

end Logicless.Text

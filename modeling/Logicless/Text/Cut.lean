namespace Logicless.Text

def byteLength : List Char → Nat
  | [] => 0
  | c :: cs => c.utf8Size + byteLength cs

@[simp] theorem byteLength_nil : byteLength [] = 0 := rfl

@[simp] theorem byteLength_cons (c : Char) (cs : List Char) :
    byteLength (c :: cs) = c.utf8Size + byteLength cs := rfl

@[simp] theorem byteLength_append (as bs : List Char) :
    byteLength (as ++ bs) = byteLength as + byteLength bs := by
  induction as with
  | nil => simp
  | cons c as ih => simp [ih, Nat.add_assoc]

/-- Cuts a text at the first occurrence of a mark: what stands before it, and what follows it. -/
def cut? (mark : List Char) : List Char → Option (List Char × List Char)
  | [] => if mark.isEmpty then some ([], []) else none
  | c :: cs =>
    if mark.isPrefixOf (c :: cs) then some ([], (c :: cs).drop mark.length)
    else (cut? mark cs).map fun (before, after) => (c :: before, after)

def occurs (mark cs : List Char) : Bool :=
  (cut? mark cs).isSome

theorem eq_of_cut? {mark cs before after : List Char} (h : cut? mark cs = some (before, after)) :
    cs = before ++ mark ++ after := by
  induction cs generalizing before with
  | nil =>
    cases mark with
    | nil => simp_all [cut?]
    | cons => simp [cut?] at h
  | cons c cs ih =>
    unfold cut? at h
    split at h
    · next hp =>
      obtain ⟨rest, hrest⟩ := List.isPrefixOf_iff_prefix.1 hp
      cases h
      simp [← hrest]
    · obtain ⟨⟨b, a⟩, hcut, heq⟩ := Option.map_eq_some_iff.1 h
      cases heq
      simpa using ih hcut

theorem length_lt_of_cut? {mark cs before after : List Char} (hm : 0 < mark.length)
    (h : cut? mark cs = some (before, after)) : after.length < cs.length := by
  rw [eq_of_cut? h]
  simp
  omega

end Logicless.Text

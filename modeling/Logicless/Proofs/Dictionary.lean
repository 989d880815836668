import Mathlib.Data.Set.Card
import Logicless.Dictionary

namespace Logicless.Dictionary

theorem mem_keys_iff {key : String} {d : Dictionary α} :
    key ∈ d.keys ↔ ∃ v, find? key d = some v := by
  induction d with
  | nil => simp [keys, find?]
  | cons e d ih =>
    obtain ⟨k, v⟩ := e
    by_cases h : k = key
    · simp [keys, find?, h]
    · have hmem : key ∈ keys ((k, v) :: d) ↔ key ∈ keys d := by simp [keys, Ne.symm h]
      rw [hmem, ih, find?, if_neg h]

theorem mem_of_find? {key : String} {v : α} {d : Dictionary α} (h : find? key d = some v) :
    (key, v) ∈ d := by
  induction d with
  | nil => cases h
  | cons e d ih =>
    obtain ⟨k, w⟩ := e
    rw [find?] at h
    split at h
    · next hk =>
      cases h
      rw [hk]
      exact .head _
    · exact .tail _ (ih h)

theorem Ordered.find?_eq_some_iff {key : String} {v : α} {d : Dictionary α} (h : d.Ordered) :
    find? key d = some v ↔ (key, v) ∈ d := by
  constructor
  · exact mem_of_find?
  · intro hmem
    induction d with
    | nil => cases hmem
    | cons e d ih =>
      obtain ⟨hhead, htail⟩ := List.pairwise_cons.1 h
      rcases List.mem_cons.1 hmem with rfl | hd
      · rw [find?, if_pos rfl]
      · have hne : e.1 ≠ key := by
          intro heq
          have hlt := hhead _ hd
          rw [heq] at hlt
          exact String.lt_irrefl _ hlt
        rw [find?, if_neg hne]
        exact ih htail hd

theorem Ordered.keys_pairwise {d : Dictionary α} (h : d.Ordered) : d.keys.Pairwise (· < ·) :=
  List.pairwise_map.2 h

theorem Ordered.nodup_keys {d : Dictionary α} (h : d.Ordered) : d.keys.Nodup := by
  apply h.keys_pairwise.imp
  intro a b hlt heq
  rw [heq] at hlt
  exact String.lt_irrefl _ hlt

/-- An entry that replaces another one shows only where the two are told apart. -/
theorem Ordered.map_filter_insert {key : String} {d : Dictionary α} {v w : α}
    {p : String × α → Bool} {f : String × α → β} (h : d.Ordered) (hfind : find? key d = some w)
    (hp : p (key, v) = p (key, w)) (hf : f (key, v) = f (key, w)) :
    ((Dictionary.insert key v d).filter p).map f = (d.filter p).map f := by
  induction d with
  | nil => cases hfind
  | cons e d ih =>
    obtain ⟨k, u⟩ := e
    obtain ⟨hhead, htail⟩ := List.pairwise_cons.1 h
    rw [find?] at hfind
    rw [Dictionary.insert]
    split at hfind
    · next hkey =>
      subst hkey
      cases hfind
      rw [if_neg (String.lt_irrefl k), if_pos rfl, List.filter_cons, List.filter_cons, hp]
      split
      · rw [List.map_cons, List.map_cons, hf]
      · rfl
    · next hkey =>
      have hlt : ¬ key < k := String.lt_asymm (hhead _ (mem_of_find? hfind))
      rw [if_neg hlt, if_neg hkey, List.filter_cons, List.filter_cons]
      split
      · rw [List.map_cons, List.map_cons, ih htail hfind]
      · exact ih htail hfind

theorem find?_insertAll (key : String) (d : Dictionary α) (entries : List (String × α)) :
    find? key (insertAll d entries) = (entries.reverse.lookup key).or (find? key d) := by
  induction entries generalizing d with
  | nil => rfl
  | cons e entries ih =>
    obtain ⟨k, v⟩ := e
    have hstep : insertAll d ((k, v) :: entries) = insertAll (insert k v d) entries := rfl
    rw [hstep, ih, find?_insert, List.reverse_cons, List.lookup_append, Option.or_assoc]
    congr 1
    rw [List.lookup_cons]
    by_cases h : k = key
    · rw [if_pos h, h, beq_self_eq_true]
      rfl
    · rw [if_neg h, beq_eq_false_iff_ne.2 (Ne.symm h)]
      rfl

theorem find?_ofList (key : String) (entries : List (String × α)) :
    find? key (ofList entries) = entries.reverse.lookup key := by
  rw [ofList, find?_insertAll, find?, Option.or_none]

theorem mem_insertAll {d : Dictionary α} {entries : List (String × α)} {e : String × α}
    (h : e ∈ insertAll d entries) : e ∈ d ∨ e ∈ entries := by
  induction entries generalizing d with
  | nil => exact .inl h
  | cons f entries ih =>
    rcases ih h with h | h
    · rcases eq_or_mem_of_mem_insert h with rfl | h
      · exact .inr (.head entries)
      · exact .inl h
    · exact .inr (.tail f h)

theorem mem_of_mem_ofList {entries : List (String × α)} {e : String × α}
    (h : e ∈ ofList entries) : e ∈ entries :=
  (mem_insertAll h).resolve_left List.not_mem_nil

theorem find?_insertAll_of_not_mem {key : String} {d : Dictionary α} {entries : List (String × α)}
    (h : key ∉ entries.map Prod.fst) : find? key (insertAll d entries) = find? key d := by
  have hlookup : entries.reverse.lookup key = none := by
    rw [List.lookup_eq_none_iff]
    intro e he
    rw [bne_iff_ne]
    rintro rfl
    exact h (List.mem_map_of_mem (List.mem_reverse.1 he))
  rw [find?_insertAll, hlookup, Option.none_or]

theorem find?_insertAll_of_mem {key : String} {v : α} {d : Dictionary α}
    {entries : List (String × α)} (hnodup : (entries.map Prod.fst).Nodup)
    (h : (key, v) ∈ entries) : find? key (insertAll d entries) = some v := by
  have hlookup : entries.reverse.lookup key = some v := by
    obtain ⟨before, later, rfl⟩ := List.append_of_mem h
    rw [List.lookup_eq_some_iff]
    refine ⟨later.reverse, before.reverse, by simp, ?_⟩
    intro e he
    rw [List.map_append, List.map_cons] at hnodup
    have hne : key ∉ later.map Prod.fst := (List.nodup_cons.1 hnodup.of_append_right).1
    rw [bne_iff_ne]
    rintro rfl
    exact hne (List.mem_map_of_mem (List.mem_reverse.1 he))
  rw [find?_insertAll, hlookup, Option.some_or]

theorem mem_ofList_iff {entries : List (String × α)} (h : (entries.map Prod.fst).Nodup)
    {e : String × α} : e ∈ ofList entries ↔ e ∈ entries := by
  constructor
  · exact mem_of_mem_ofList
  · intro he
    exact mem_of_find? (find?_insertAll_of_mem h he)

end Logicless.Dictionary

namespace Logicless.Table

variable {t u : Table α} {key : String}

theorem find?_eq_some_iff {v : α} : t.find? key = some v ↔ (key, v) ∈ t.entries :=
  t.ordered.find?_eq_some_iff

theorem mem_keys_iff : key ∈ t.keys ↔ ∃ v, t.find? key = some v :=
  Dictionary.mem_keys_iff

theorem keys_pairwise (t : Table α) : t.keys.Pairwise (· < ·) :=
  t.ordered.keys_pairwise

theorem nodup_keys (t : Table α) : t.keys.Nodup :=
  t.ordered.nodup_keys

theorem isEmpty_iff : t.isEmpty = true ↔ t.keys = [] := by
  rw [isEmpty, List.isEmpty_iff, keys, map, List.map_eq_nil_iff]

theorem size_eq_length (t : Table α) : t.size = t.keys.length :=
  (List.length_map _).symm

theorem size_eq_ncard (t : Table α) : t.size = {key | key ∈ t.keys}.ncard := by
  have hset : {key | key ∈ t.keys} = (t.keys.toFinset : Set String) := by
    ext key
    simp
  rw [hset, Set.ncard_coe_finset, List.toFinset_card_of_nodup t.nodup_keys, size_eq_length]

theorem eq_of_mem_iff (h : ∀ e, e ∈ t.entries ↔ e ∈ u.entries) : t = u := by
  have hperm : t.entries.Perm u.entries := by
    apply (List.perm_ext_iff_of_nodup ?_ ?_).2 h
    · exact List.Nodup.of_map Prod.fst t.nodup_keys
    · exact List.Nodup.of_map Prod.fst u.nodup_keys
  have hentries : t.entries = u.entries := by
    apply hperm.eq_of_pairwise _ t.ordered u.ordered
    intro a b _ _ hab hba
    exact absurd hba (String.lt_asymm hab)
  cases t
  cases hentries
  rfl

theorem eq_of_find?_eq (h : ∀ key, t.find? key = u.find? key) : t = u := by
  apply eq_of_mem_iff
  rintro ⟨key, v⟩
  rw [← find?_eq_some_iff, ← find?_eq_some_iff, h]

theorem find?_ofList_eq_some_iff {entries : List (String × α)} (h : (entries.map Prod.fst).Nodup)
    {v : α} : (ofList entries).find? key = some v ↔ (key, v) ∈ entries := by
  rw [find?_eq_some_iff]
  exact Dictionary.mem_ofList_iff h

theorem ofList_entries (t : Table α) : ofList t.entries = t :=
  eq_of_mem_iff fun _ => Dictionary.mem_ofList_iff t.nodup_keys

/-- Entries of different keys may come in any order. -/
theorem insertAll_perm (t : Table α) {entries others : List (String × α)}
    (hnodup : (entries.map Prod.fst).Nodup) (h : entries.Perm others) :
    t.insertAll entries = t.insertAll others := by
  have hothers : (others.map Prod.fst).Nodup := (h.map Prod.fst).nodup hnodup
  apply eq_of_find?_eq
  intro key
  by_cases hkey : key ∈ entries.map Prod.fst
  · obtain ⟨⟨k, v⟩, hmem, rfl⟩ := List.mem_map.1 hkey
    have hv := Dictionary.find?_insertAll_of_mem (d := t.entries) hnodup hmem
    have hv' := Dictionary.find?_insertAll_of_mem (d := t.entries) hothers (h.mem_iff.1 hmem)
    exact hv.trans hv'.symm
  · have hkey' : key ∉ others.map Prod.fst := fun hmem => hkey ((h.map Prod.fst).mem_iff.2 hmem)
    have hsame := Dictionary.find?_insertAll_of_not_mem (d := t.entries) hkey
    exact hsame.trans (Dictionary.find?_insertAll_of_not_mem hkey').symm

end Logicless.Table

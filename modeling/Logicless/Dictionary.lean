namespace Logicless

/-- Entries under text keys, in increasing order of the keys by code points, which is also that of
their UTF-8 bytes. A type cannot be nested in one that holds a proof about its members, so values
and directories hold bare dictionaries; a `Table` carries its order. -/
abbrev Dictionary (α : Type u) := List (String × α)

namespace Dictionary

variable {α : Type u}

def find? (key : String) : Dictionary α → Option α
  | [] => none
  | (k, v) :: rest => if k = key then some v else find? key rest

def contains (key : String) (d : Dictionary α) : Bool :=
  (find? key d).isSome

def insert (key : String) (value : α) : Dictionary α → Dictionary α
  | [] => [(key, value)]
  | (k, v) :: rest =>
    if key < k then (key, value) :: (k, v) :: rest
    else if k = key then (key, value) :: rest
    else (k, v) :: insert key value rest

def insertAll (d : Dictionary α) (entries : List (String × α)) : Dictionary α :=
  entries.foldl (fun d e => insert e.1 e.2 d) d

/-- The dictionary of a list of entries, in which the last entry of a key counts. -/
def ofList (entries : List (String × α)) : Dictionary α :=
  insertAll [] entries

def overlay (upper lower : Dictionary α) : Dictionary α :=
  upper.foldr (fun e d => insert e.1 e.2 d) lower

def keys (d : Dictionary α) : List String :=
  d.map Prod.fst

def Ordered (d : Dictionary α) : Prop :=
  d.Pairwise fun a b => a.1 < b.1

theorem find?_insert_self (key : String) (value : α) (d : Dictionary α) :
    find? key (insert key value d) = some value := by
  induction d with
  | nil => simp [insert, find?]
  | cons e d ih =>
    obtain ⟨k, v⟩ := e
    simp only [insert]
    split
    · simp [find?]
    · split
      · simp [find?]
      · next hne => simp [find?, hne, ih]

theorem find?_insert_of_ne {key other : String} (h : key ≠ other) (value : α) (d : Dictionary α) :
    find? other (insert key value d) = find? other d := by
  induction d with
  | nil => simp [insert, find?, h]
  | cons e d ih =>
    obtain ⟨k, v⟩ := e
    simp only [insert]
    split
    · simp [find?, h]
    · split
      · next hk => subst hk; simp [find?, h]
      · simp [find?, ih]

theorem find?_insert (key other : String) (value : α) (d : Dictionary α) :
    find? other (insert key value d) = if key = other then some value else find? other d := by
  split
  · next h => rw [← h, find?_insert_self]
  · next h => rw [find?_insert_of_ne h]

theorem find?_overlay (key : String) (upper lower : Dictionary α) :
    find? key (overlay upper lower) = (find? key upper).or (find? key lower) := by
  induction upper with
  | nil => rfl
  | cons e upper ih =>
    obtain ⟨k, v⟩ := e
    simp only [overlay, List.foldr_cons, find?_insert, find?] at ih ⊢
    split
    · rfl
    · exact ih

theorem eq_or_mem_of_mem_insert {key : String} {value : α} {d : Dictionary α} {e : String × α}
    (h : e ∈ insert key value d) : e = (key, value) ∨ e ∈ d := by
  induction d with
  | nil => simpa [insert] using h
  | cons f d ih =>
    obtain ⟨k, v⟩ := f
    simp only [insert] at h
    split at h
    · simpa using h
    · split at h
      · rcases List.mem_cons.1 h with h | h
        · exact .inl h
        · exact .inr (.tail _ h)
      · rcases List.mem_cons.1 h with h | h
        · exact .inr (h ▸ .head _)
        · exact (ih h).imp id (.tail _)

theorem Ordered.insert {d : Dictionary α} (h : d.Ordered) (key : String) (value : α) :
    (Dictionary.insert key value d).Ordered := by
  induction d with
  | nil => exact List.pairwise_singleton ..
  | cons e d ih =>
    obtain ⟨k, v⟩ := e
    obtain ⟨hhead, htail⟩ := List.pairwise_cons.1 h
    simp only [Dictionary.insert]
    split
    · next hlt =>
      refine List.pairwise_cons.2 ⟨fun f hf => ?_, h⟩
      rcases List.mem_cons.1 hf with rfl | hf
      · exact hlt
      · exact String.lt_trans hlt (hhead f hf)
    · split
      · next heq =>
        subst heq
        exact List.pairwise_cons.2 ⟨hhead, htail⟩
      · next hnlt hne =>
        refine List.pairwise_cons.2 ⟨fun f hf => ?_, ih htail⟩
        rcases eq_or_mem_of_mem_insert hf with rfl | hf
        · exact Std.lt_of_le_of_ne (String.not_lt.1 hnlt) hne
        · exact hhead f hf

theorem Ordered.insertAll {d : Dictionary α} (h : d.Ordered) (entries : List (String × α)) :
    (insertAll d entries).Ordered := by
  induction entries generalizing d with
  | nil => exact h
  | cons e entries ih => exact ih (h.insert e.1 e.2)

theorem ordered_ofList (entries : List (String × α)) : (ofList entries).Ordered :=
  Ordered.insertAll .nil entries

end Dictionary

/-- A dictionary in order. -/
structure Table (α : Type u) where
  entries : Dictionary α
  ordered : entries.Ordered
deriving DecidableEq

namespace Table

variable {α : Type u}

def empty : Table α := ⟨[], .nil⟩

def find? (t : Table α) (key : String) : Option α :=
  t.entries.find? key

def contains (t : Table α) (key : String) : Bool :=
  t.entries.contains key

def insert (t : Table α) (key : String) (value : α) : Table α :=
  ⟨t.entries.insert key value, t.ordered.insert key value⟩

def insertAll (t : Table α) (entries : List (String × α)) : Table α :=
  ⟨t.entries.insertAll entries, t.ordered.insertAll entries⟩

def ofList (entries : List (String × α)) : Table α :=
  empty.insertAll entries

def map (t : Table α) (f : String × α → β) : List β :=
  t.entries.map f

def keys (t : Table α) : List String :=
  t.map Prod.fst

def size (t : Table α) : Nat :=
  t.entries.length

def isEmpty (t : Table α) : Bool :=
  t.entries.isEmpty

@[simp] theorem find?_empty (key : String) : (empty : Table α).find? key = none :=
  rfl

theorem find?_insert_self (t : Table α) (key : String) (value : α) :
    (t.insert key value).find? key = some value :=
  Dictionary.find?_insert_self ..

theorem find?_insert_of_ne {key other : String} (h : key ≠ other) (t : Table α) (value : α) :
    (t.insert key value).find? other = t.find? other :=
  Dictionary.find?_insert_of_ne h ..

theorem find?_insert (t : Table α) (key other : String) (value : α) :
    (t.insert key value).find? other = if key = other then some value else t.find? other :=
  Dictionary.find?_insert ..

end Table

end Logicless

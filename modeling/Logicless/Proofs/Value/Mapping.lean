import Logicless.Proofs.Dictionary
import Logicless.Yaml.Meaning

namespace Logicless

namespace Value

def setAll (v : Value) (entries : List (String × Value)) : Value :=
  entries.foldl (fun v e => v.set e.1 e.2) v

theorem setAll_mapping (d : Dictionary Value) (entries : List (String × Value)) :
    setAll (mapping d) entries = mapping (Dictionary.insertAll d entries) := by
  induction entries generalizing d with
  | nil => rfl
  | cons e entries ih => exact ih (Dictionary.insert e.1 e.2 d)

theorem setAll_of_ne_nil {entries : List (String × Value)} (h : entries ≠ []) (v : Value) :
    setAll v entries = mapping (Dictionary.insertAll v.entries entries) := by
  cases entries with
  | nil => exact absurd rfl h
  | cons e entries => exact setAll_mapping (Dictionary.insert e.1 e.2 v.entries) entries

theorem entries_of_ne_mapping {v : Value} (h : ∀ d, v ≠ mapping d) : v.entries = [] := by
  cases v with
  | mapping d => exact absurd rfl (h d)
  | null | bool _ | number _ | string _ | sequence _ => rfl

/-- The ways to make a mapping of entries, which all come to the same. -/
structure LastCounts (entries : List (String × Value)) : Prop where
  setAll_empty : setAll empty entries = ofEntries entries
  setAll_eq : ∀ v, (∀ d, v ≠ mapping d) → entries ≠ [] → setAll v entries = ofEntries entries
  get?_eq : ∀ key, (ofEntries entries).get? key = entries.reverse.lookup key
  /-- A mapping keeps what it has under other keys. -/
  get?_setAll : ∀ (d : Dictionary Value) key, (setAll (mapping d) entries).get? key =
    (entries.reverse.lookup key).or (d.find? key)
  ofEntries_perm : ∀ others, entries.Perm others → (entries.map Prod.fst).Nodup →
    ofEntries others = ofEntries entries
  setAll_perm : ∀ v (t : Table Value) others, v.entries = t.entries → entries.Perm others →
    (entries.map Prod.fst).Nodup → setAll v others = setAll v entries

theorem get?_ofEntries (entries : List (String × Value)) (key : String) :
    (ofEntries entries).get? key = entries.reverse.lookup key :=
  Dictionary.find?_ofList key entries

theorem lastCounts (entries : List (String × Value)) : LastCounts entries where
  setAll_empty := setAll_mapping [] entries
  setAll_eq := by
    intro v hv hne
    rw [setAll_of_ne_nil hne, entries_of_ne_mapping hv]
    rfl
  get?_eq := get?_ofEntries entries
  get?_setAll := by
    intro d key
    rw [setAll_mapping]
    exact Dictionary.find?_insertAll key d entries
  ofEntries_perm := by
    intro others h hnodup
    have htables := Table.empty.insertAll_perm hnodup h
    exact congrArg (fun t => mapping t.entries) htables.symm
  setAll_perm := by
    intro v t others hv h hnodup
    by_cases hne : entries = []
    · subst hne
      rw [h.nil_eq]
    · have hne' : others ≠ [] := fun hnil => hne (h.trans (.of_eq hnil)).eq_nil
      have htables := t.insertAll_perm hnodup h
      rw [setAll_of_ne_nil hne, setAll_of_ne_nil hne', hv]
      exact congrArg (fun t => mapping t.entries) htables.symm

theorem ofJsonItems_eq_map (js : List Json) : ofJsonItems js = js.map ofJson := by
  induction js with
  | nil => rfl
  | cons j js ih => rw [ofJsonItems, ih, List.map_cons]

theorem ofJsonMembers_eq_map (members : List (String × Json)) :
    ofJsonMembers members = members.map fun m => (m.1, ofJson m.2) := by
  induction members with
  | nil => rfl
  | cons m members ih => rw [ofJsonMembers, ih, List.map_cons]

theorem lookup_map_snd (f : α → β) (key : String) (entries : List (String × α)) :
    (entries.map fun e => (e.1, f e.2)).lookup key = (entries.lookup key).map f := by
  induction entries with
  | nil => rfl
  | cons e entries ih =>
    rw [List.map_cons, List.lookup_cons, List.lookup_cons, ih]
    cases key == e.1 <;> rfl

theorem get?_ofJson_object (members : List (String × Json)) (key : String) :
    (ofJson (.object members)).get? key = (Json.member? key members).map ofJson := by
  rw [ofJson, get?_ofEntries, ofJsonMembers_eq_map, ← List.map_reverse, lookup_map_snd,
    Json.member?]

theorem ofJson_of_number? {j : Json} {n : Number} (h : j.number? = some n) :
    ofJson j = number n := by
  cases j with
  | integer m =>
    cases h
    rfl
  | real m =>
    cases h
    rfl
  | null | bool _ | string _ | array _ | object _ => cases h

theorem ofYamlItems_eq_map (ys : List Yaml) : ofYamlItems ys = ys.map ofYaml := by
  induction ys with
  | nil => rfl
  | cons y ys ih => rw [ofYamlItems, ih, List.map_cons]

theorem ofYamlEntries_eq_filterMap (entries : List (Yaml × Yaml)) :
    ofYamlEntries entries =
      entries.filterMap fun e => e.1.keyText?.map fun key => (key, ofYaml e.2) := by
  induction entries with
  | nil => rfl
  | cons e entries ih =>
    rw [ofYamlEntries, List.filterMap_cons, ih]
    cases e.1.keyText? <;> rfl

theorem lookup_filterMap_keyText? (key : String) (entries : List (Yaml × Yaml)) :
    (entries.filterMap fun e => e.1.keyText?.map fun k => (k, ofYaml e.2)).lookup key =
      (entries.find? fun e => e.1.KeyText key).map fun e => ofYaml e.2 := by
  induction entries with
  | nil => rfl
  | cons e entries ih =>
    rw [List.filterMap_cons, List.find?_cons]
    cases hkey : e.1.keyText? with
    | none =>
      have hnot : ¬ e.1.KeyText key := by
        rw [← Yaml.keyText?_eq_some_iff, hkey]
        exact nofun
      rw [decide_eq_false hnot]
      exact ih
    | some k =>
      have hiff : e.1.KeyText key ↔ k = key := by
        rw [← Yaml.keyText?_eq_some_iff, hkey, Option.some.injEq]
      rw [Option.map_some]
      dsimp only
      rw [List.lookup_cons]
      by_cases h : k = key
      · rw [h, beq_self_eq_true, decide_eq_true (hiff.2 h)]
        rfl
      · rw [beq_eq_false_iff_ne.2 (Ne.symm h), decide_eq_false (fun hk => h (hiff.1 hk))]
        exact ih

theorem get?_ofYaml_mapping (entries : List (Yaml × Yaml)) (key : String) :
    (ofYaml (.mapping entries)).get? key = (Yaml.value? key entries).map ofYaml := by
  rw [ofYaml, get?_ofEntries, ofYamlEntries_eq_filterMap, ← List.filterMap_reverse,
    lookup_filterMap_keyText?, Yaml.value?, Option.map_map]
  rfl

theorem ofYaml_of_number? {y : Yaml} {n : Number} (h : y.number? = some n) :
    ofYaml y = number n := by
  cases y with
  | integer m =>
    cases h
    rfl
  | real m =>
    cases h
    rfl
  | null | bool _ | string _ | sequence _ | mapping _ | tagged _ _ => cases h

/-- A mapping is determined by what it has under each key. -/
theorem mapping_eq_ofEntries {t : Table Value} {entries : List (String × Value)}
    (h : ∀ key, t.find? key = (ofEntries entries).get? key) :
    mapping t.entries = ofEntries entries := by
  have htables : t = .ofList entries := Table.eq_of_find?_eq h
  exact congrArg (fun t => mapping t.entries) htables

theorem eq_ofYaml_of_means {y : Yaml} {v : Value} (h : y.Means v) : v = ofYaml y := by
  induction h using Yaml.Means.rec
    (motive_2 := fun ys vs _ => vs = ys.map ofYaml)
    (motive_3 := fun y v _ => v = y.map ofYaml) with
  | null => rfl
  | bool b => rfl
  | number h => exact (ofYaml_of_number? h).symm
  | string s => rfl
  | sequence h ih => rw [ih, ofYaml, ofYamlItems_eq_map]
  | mapping h ih =>
    apply mapping_eq_ofEntries
    intro key
    rw [ih]
    exact (get?_ofYaml_mapping ..).symm
  | tagged h ih => exact ih
  | nil => rfl
  | cons h hs ih ihs => rw [List.map_cons, ih, ihs]
  | some h ih => rw [ih, Option.map_some]
  | none => rfl

theorem exists_mem_of_value? {key : String} {entries : List (Yaml × Yaml)} {y : Yaml}
    (h : Yaml.value? key entries = some y) : ∃ k, (k, y) ∈ entries := by
  obtain ⟨⟨k, y'⟩, hfind, heq⟩ := Option.map_eq_some_iff.1 h
  obtain rfl : y' = y := heq
  exact ⟨k, List.mem_reverse.1 (List.mem_of_find?_eq_some hfind)⟩

mutual

theorem means_ofYaml : ∀ y : Yaml, y.Means (ofYaml y)
  | .null => .null
  | .bool b => .bool b
  | .integer n => .number rfl
  | .real n => .number rfl
  | .string s => .string s
  | .sequence items => .sequence (means_ofYamlItems items)
  | .mapping entries => by
    have hvalues := means_ofYamlValues entries
    refine .mapping (t := .ofList (ofYamlEntries entries)) fun key => ?_
    have hget : (Table.ofList (ofYamlEntries entries)).find? key =
        (Yaml.value? key entries).map ofYaml := get?_ofYaml_mapping entries key
    rw [hget]
    cases hentry : Yaml.value? key entries with
    | none => exact .none
    | some y =>
      obtain ⟨k, hmem⟩ := exists_mem_of_value? hentry
      exact .some (hvalues _ hmem)
  | .tagged tag content => .tagged (means_ofYaml content)

theorem means_ofYamlItems : ∀ ys : List Yaml, List.Forall₂ Yaml.Means ys (ofYamlItems ys)
  | [] => .nil
  | y :: ys => .cons (means_ofYaml y) (means_ofYamlItems ys)

theorem means_ofYamlValues :
    ∀ (entries : List (Yaml × Yaml)), ∀ e ∈ entries, e.2.Means (ofYaml e.2)
  | [], _, h => nomatch h
  | (k, y) :: entries, e, h => by
    have hy := means_ofYaml y
    have hentries := means_ofYamlValues entries
    rcases List.mem_cons.1 h with rfl | h
    · exact hy
    · exact hentries e h

end

theorem ofJson_eq_ofYaml {j : Json} {y : Yaml} (h : Yaml.SameShape j y) : ofJson j = ofYaml y := by
  induction h using Yaml.SameShape.rec
    (motive_2 := fun js ys _ => js.map ofJson = ys.map ofYaml)
    (motive_3 := fun j y _ => j.map ofJson = y.map ofYaml) with
  | null => rfl
  | bool b => rfl
  | number hj hy => rw [ofJson_of_number? hj, ofYaml_of_number? hy]
  | string s => rfl
  | array h ih => rw [ofJson, ofYaml, ofJsonItems_eq_map, ofYamlItems_eq_map, ih]
  | @object members entries htexts h ih =>
    apply mapping_eq_ofEntries (t := .ofList (ofJsonMembers members))
    intro key
    have hmember := get?_ofJson_object members key
    have hentry := get?_ofYaml_mapping entries key
    rw [ih] at hmember
    exact hmember.trans hentry.symm
  | nil => rfl
  | cons h hs ih ihs => rw [List.map_cons, List.map_cons, ih, ihs]
  | some h ih => rw [Option.map_some, Option.map_some, ih]
  | none => rfl

/-- However a mapping comes about, of the entries with one key the last counts, and the order of
entries with different keys does not. A document has the one value that it means, and documents of
the same shape have the same value. -/
theorem last_entry_counts :
    (∀ entries, LastCounts entries) ∧ (∀ (y : Yaml) (v : Value), y.Means v ↔ v = ofYaml y) ∧
      ∀ (j : Json) (y : Yaml), Yaml.SameShape j y → ofJson j = ofYaml y := by
  refine ⟨lastCounts, fun y v => ⟨eq_ofYaml_of_means, ?_⟩, fun _ _ => ofJson_eq_ofYaml⟩
  rintro rfl
  exact means_ofYaml y

theorem sameShape_swapped :
    Yaml.SameShape (.object [("b", .null), ("a", .integer 1)])
      (.mapping [(.string "a", .real (.ofInt 1)), (.string "b", .null)]) := by
  refine .object (by simp) fun key => ?_
  by_cases ha : key = "a"
  · subst ha
    exact .some (.number rfl rfl)
  · by_cases hb : key = "b"
    · subst hb
      exact .some .null
    · have hmember : Json.member? key [("b", .null), ("a", .integer 1)] = none := by
        simp [Json.member?, List.lookup_cons, beq_eq_false_iff_ne.2 ha, beq_eq_false_iff_ne.2 hb]
      have hentry : Yaml.value? key [(.string "a", .real (.ofInt 1)), (.string "b", .null)] =
          none := by
        simp [Yaml.value?, ← Yaml.keyText?_eq_some_iff, Yaml.keyText?, Ne.symm ha, Ne.symm hb]
      rw [hmember, hentry]
      exact .none

theorem last_entry_counts_colliding_keys :
    setAll (.bool true) [("a", .null), ("b", .null), ("a", .bool true)] =
        ofEntries [("a", .null), ("b", .null), ("a", .bool true)] ∧
      ofEntries [("b", .null), ("a", .bool true)] = ofEntries [("a", .bool true), ("b", .null)] ∧
      Yaml.Means
        (.mapping
          [(.bool true, .null), (.null, .null), (.string "true", .tagged "t" (.bool false))])
        (.mapping [("true", .bool false)]) ∧
      ofJson (.object [("b", .null), ("a", .integer 1)]) =
        ofYaml (.mapping [(.string "a", .real (.ofInt 1)), (.string "b", .null)]) := by
  obtain ⟨hentries, hmeans, hshape⟩ := last_entry_counts
  refine ⟨?_, ?_, ?_, ?_⟩
  · exact (hentries _).setAll_eq _ nofun (List.cons_ne_nil _ _)
  · exact (hentries _).ofEntries_perm _ (.swap _ _ _) (by decide)
  · exact (hmeans _ _).2 rfl
  · exact hshape _ _ sameShape_swapped

end Value

end Logicless

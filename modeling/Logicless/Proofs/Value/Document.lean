import Logicless.Proofs.Dictionary
import Logicless.Value.Document
import Logicless.Yaml

namespace Logicless

namespace Value

theorem depth_le_depthItems {v : Value} {items : List Value} (h : v ∈ items) :
    v.depth ≤ depthItems items := by
  induction h with
  | head vs => exact Nat.le_max_left ..
  | tail w _ ih => exact Nat.le_trans ih (Nat.le_max_right ..)

theorem depth_le_depthEntries {e : String × Value} {entries : List (String × Value)}
    (h : e ∈ entries) : e.2.depth ≤ depthEntries entries := by
  induction h with
  | head es => exact Nat.le_max_left ..
  | tail f _ ih => exact Nat.le_trans ih (Nat.le_max_right ..)

theorem mem_numbersItems {n : Number} {v : Value} {items : List Value} (h : v ∈ items)
    (hn : n ∈ v.numbers) : n ∈ numbersItems items := by
  induction h with
  | head vs => exact List.mem_append_left _ hn
  | tail w _ ih => exact List.mem_append_right _ ih

theorem mem_numbersEntries {n : Number} {e : String × Value} {entries : List (String × Value)}
    (h : e ∈ entries) (hn : n ∈ e.2.numbers) : n ∈ numbersEntries entries := by
  induction h with
  | head es => exact List.mem_append_left _ hn
  | tail f _ ih => exact List.mem_append_right _ ih

theorem wellFormed_ofEntries {entries : List (String × Value)}
    (h : ∀ e ∈ entries, e.2.WellFormed) : (ofEntries entries).WellFormed :=
  .mapping (Dictionary.ordered_ofList entries) fun e he => h e (Dictionary.mem_of_mem_ofList he)

theorem WellFormed.entries {v : Value} (h : v.WellFormed) :
    v.entries.Ordered ∧ ∀ e ∈ v.entries, e.2.WellFormed := by
  cases h with
  | mapping hordered hentries => exact ⟨hordered, hentries⟩
  | null | bool _ | number _ | string _ | sequence _ => exact ⟨.nil, nofun⟩

theorem WellFormed.set {v w : Value} (hv : v.WellFormed) (hw : w.WellFormed) (key : String) :
    (v.set key w).WellFormed := by
  obtain ⟨hordered, hentries⟩ := hv.entries
  refine .mapping (hordered.insert key w) fun e he => ?_
  rcases Dictionary.eq_or_mem_of_mem_insert he with rfl | he
  · exact hw
  · exact hentries e he

mutual

theorem wellFormed_ofJson : ∀ j : Json, (ofJson j).WellFormed
  | .null => .null
  | .bool b => .bool b
  | .integer n => .number (.ofInt n)
  | .real n => .number n
  | .string s => .string s
  | .array items => .sequence (wellFormed_ofJsonItems items)
  | .object members => wellFormed_ofEntries (wellFormed_ofJsonMembers members)

theorem wellFormed_ofJsonItems : ∀ js : List Json, ∀ v ∈ ofJsonItems js, v.WellFormed
  | [] => nofun
  | j :: js => List.forall_mem_cons.2 ⟨wellFormed_ofJson j, wellFormed_ofJsonItems js⟩

theorem wellFormed_ofJsonMembers :
    ∀ members : List (String × Json), ∀ e ∈ ofJsonMembers members, e.2.WellFormed
  | [] => nofun
  | (_, j) :: ms => List.forall_mem_cons.2 ⟨wellFormed_ofJson j, wellFormed_ofJsonMembers ms⟩

end

mutual

theorem wellFormed_ofYaml : ∀ y : Yaml, (ofYaml y).WellFormed
  | .null => .null
  | .bool b => .bool b
  | .integer n => .number (.ofInt n)
  | .real n => .number n
  | .string s => .string s
  | .sequence items => .sequence (wellFormed_ofYamlItems items)
  | .mapping entries => wellFormed_ofEntries (wellFormed_ofYamlEntries entries)
  | .tagged _ content => wellFormed_ofYaml content

theorem wellFormed_ofYamlItems : ∀ ys : List Yaml, ∀ v ∈ ofYamlItems ys, v.WellFormed
  | [] => nofun
  | y :: ys => List.forall_mem_cons.2 ⟨wellFormed_ofYaml y, wellFormed_ofYamlItems ys⟩

theorem wellFormed_ofYamlEntries :
    ∀ entries : List (Yaml × Yaml), ∀ e ∈ ofYamlEntries entries, e.2.WellFormed
  | [] => nofun
  | (k, y) :: es => by
    have hes := wellFormed_ofYamlEntries es
    rw [ofYamlEntries]
    split
    · exact List.forall_mem_cons.2 ⟨wellFormed_ofYaml y, hes⟩
    · exact hes

end

mutual

/-- The shape of values fits every JSON document, which has no tags and texts for keys. -/
theorem ofUntagged?_ofJson : ∀ j : Json, ofUntagged? (.ofJson j) = some (ofJson j)
  | .null => rfl
  | .bool b => rfl
  | .integer n => rfl
  | .real n => rfl
  | .string s => rfl
  | .array items => by
    rw [Yaml.ofJson, ofUntagged?, ofUntaggedItems?_ofJsonItems items]
    rfl
  | .object members => by
    rw [Yaml.ofJson, ofUntagged?, ofUntaggedEntries?_ofJsonMembers members]
    rfl

theorem ofUntaggedItems?_ofJsonItems :
    ∀ js : List Json, ofUntaggedItems? (Yaml.ofJsonItems js) = some (ofJsonItems js)
  | [] => rfl
  | j :: js => by
    rw [Yaml.ofJsonItems, ofUntaggedItems?, ofUntagged?_ofJson j, ofUntaggedItems?_ofJsonItems js]
    rfl

theorem ofUntaggedEntries?_ofJsonMembers : ∀ members : List (String × Json),
    ofUntaggedEntries? (Yaml.ofJsonMembers members) = some (ofJsonMembers members)
  | [] => rfl
  | (k, j) :: ms => by
    rw [Yaml.ofJsonMembers, ofUntaggedEntries?, ofUntagged?_ofJson j,
      ofUntaggedEntries?_ofJsonMembers ms]
    rfl

end

theorem keys_definiteEntries (entries : List (String × Value)) :
    (definiteEntries entries).map Prod.fst = entries.map Prod.fst := by
  induction entries with
  | nil => rfl
  | cons e es ih => rw [definiteEntries, List.map_cons, ih, List.map_cons]

theorem ordered_definiteEntries {entries : Dictionary Value} (h : entries.Ordered) :
    Dictionary.Ordered (definiteEntries entries) := by
  have hkeys := h.keys_pairwise
  rw [Dictionary.keys, ← keys_definiteEntries] at hkeys
  exact List.pairwise_map.1 hkeys

mutual

theorem ofJson_document : ∀ {v : Value}, v.WellFormed → ofJson v.document = v.definite
  | .null, _ => rfl
  | .bool _, _ => rfl
  | .number .nan, _ => rfl
  | .number (.infinite _), _ => rfl
  | .number (.finite _ _), _ => rfl
  | .string _, _ => rfl
  | .sequence items, .sequence h => congrArg sequence (ofJsonItems_documentItems h)
  | .mapping entries, .mapping hordered h => by
    have htable := Table.ofList_entries ⟨_, ordered_definiteEntries hordered⟩
    rw [document, ofJson, ofJsonMembers_documentMembers h]
    exact congrArg (fun t => mapping t.entries) htable

theorem ofJsonItems_documentItems : ∀ {items : List Value}, (∀ v ∈ items, v.WellFormed) →
    ofJsonItems (documentItems items) = definiteItems items
  | [], _ => rfl
  | v :: vs, h => by
    rw [documentItems, ofJsonItems, ofJson_document (h v (.head vs)),
      ofJsonItems_documentItems fun w hw => h w (.tail v hw), definiteItems]

theorem ofJsonMembers_documentMembers :
    ∀ {entries : List (String × Value)}, (∀ e ∈ entries, e.2.WellFormed) →
      ofJsonMembers (documentMembers entries) = definiteEntries entries
  | [], _ => rfl
  | (k, v) :: es, h => by
    rw [documentMembers, ofJsonMembers, ofJson_document (h (k, v) (.head es)),
      ofJsonMembers_documentMembers fun e he => h e (.tail (k, v) he), definiteEntries]

end

end Value

namespace OrderedValue

def empty : OrderedValue :=
  ⟨.empty, Value.wellFormed_ofEntries (List.forall_mem_nil _)⟩

def set (v : OrderedValue) (key : String) (w : OrderedValue) : OrderedValue :=
  ⟨v.value.set key w.value, v.wellFormed.set w.wellFormed key⟩

def ofJson (j : Json) : OrderedValue :=
  ⟨.ofJson j, Value.wellFormed_ofJson j⟩

def ofYaml (y : Yaml) : OrderedValue :=
  ⟨.ofYaml y, Value.wellFormed_ofYaml y⟩

end OrderedValue

end Logicless

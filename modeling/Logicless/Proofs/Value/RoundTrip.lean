import Logicless.Proofs.Json.Document
import Logicless.Render

namespace Logicless.Value

/-- The JSON text of a value, which is what an unescaped variable shows of a sequence or a mapping,
decodes to the value with null in place of every number that is not finite. It does so by way of the
documents and straight, whatever way numbers are read, if the text of each number by itself stands
for the number. That is so of all numbers where numerals go to the nearest magnitude. -/
theorem json_decodes_back (v : OrderedValue) (hdepth : v.value.depth ≤ 127) :
    (∀ round, (∀ n ∈ v.value.numbers, Json.ReadsBack round n) →
        (Json.parseBy? round Json.maxDepth v.value.json).map ofJson = some v.value.definite ∧
          ((Json.parseBy? round Json.maxDepth v.value.json).bind fun j =>
            ofUntagged? (.ofJson j)) = some v.value.definite) ∧
      (∀ n, Json.ReadsBack Json.Numeral.nearest? n) ∧
      (0 < v.value.depth → ∀ resolve options depth name (r : Rendering),
        r.scope.lookup? name = some v.value →
          Node.write resolve options depth r (.interpolation name false) =
            r.write v.value.json) := by
  refine ⟨fun round hnumbers => ?_, Json.readsBack_nearest, ?_⟩
  · have hparse : Json.parseBy? round Json.maxDepth v.value.json = some v.value.document :=
      Json.parseBy?_json hdepth hnumbers
    rw [hparse, Option.map_some, Option.bind_some, ofUntagged?_ofJson,
      ofJson_document v.wellFormed]
    exact ⟨rfl, rfl⟩
  · intro hpos resolve options depth name r hlookup
    have houtput : v.value.output = v.value.json := by
      generalize v.value = w at hpos
      cases w with
      | sequence items => rfl
      | mapping entries => rfl
      | null | bool _ | number _ | string _ => cases hpos
    rw [Node.write, hlookup]
    dsimp only
    rw [shown, if_neg Bool.false_ne_true, houtput]

theorem readsBack_of_numeral {round : Json.Rounding} {negative : Bool} {m : Magnitude}
    {text : String} {n : Json.Numeral} (htext : (number (.finite negative m)).json = text)
    (hparse : Json.parseBy? round 0 text =
      (round n).map fun m => .real (.finite negative m))
    (hround : round n = some m) : Json.ReadsBack round (.finite negative m) := by
  rw [Json.ReadsBack, htext, hparse, hround]
  rfl

def tenth : Magnitude where
  significand := 7205759403792794
  scale := 1018
  significand_lt := by decide
  normal := .inr (by decide)
  scale_le := by decide

theorem readsBack_tenth : Json.ReadsBack Json.Numeral.scaled? (.finite false tenth) := by
  have htext : (number (.finite false tenth)).json = "0.1" := by decide +kernel
  have hround : Json.Numeral.scaled? ⟨['0'], ['1'], 0⟩ = some tenth := by decide +kernel
  refine readsBack_of_numeral htext ?_ hround
  generalize Json.Numeral.scaled? = round
  cbv
  cases round ⟨['0'], ['1'], 0⟩ <;> rfl

theorem readsBack_negative_zero : Json.ReadsBack Json.Numeral.scaled? (.finite true .zero) := by
  have htext : (number (.finite true .zero)).json = "-0.0" := by decide +kernel
  have hround : Json.Numeral.scaled? ⟨['0'], ['0'], 0⟩ = some .zero := by decide +kernel
  refine readsBack_of_numeral htext ?_ hround
  generalize Json.Numeral.scaled? = round
  cbv
  cases round ⟨['0'], ['0'], 0⟩ <;> rfl

/-- A key and a text that need escapes, an infinity, the zero with a sign, a fraction and
collections without items. -/
def escapes : OrderedValue :=
  (OrderedValue.empty.set "\"\\\x01<é" (.ofYaml (.sequence [.real (.infinite true),
    .real (.finite true .zero), .real (.finite false tenth), .mapping [],
    .string "\n\u2028&'\x7f"]))).set "" (.ofJson (.array []))

theorem value_escapes : escapes.value = mapping [("", sequence []), ("\"\\\x01<é", sequence
    [number (.infinite true), number (.finite true .zero), number (.finite false tenth),
      mapping [], string "\n\u2028&'\x7f"])] := by
  rfl

theorem json_decodes_back_escapes :
    ∃ v w, v = mapping [("", sequence []), ("\"\\\x01<é", sequence [number (.infinite true),
        number (.finite true .zero), number (.finite false tenth), mapping [],
        string "\n\u2028&'\x7f"])] ∧
      w = mapping [("", sequence []), ("\"\\\x01<é", sequence [null,
        number (.finite true .zero), number (.finite false tenth), mapping [],
        string "\n\u2028&'\x7f"])] ∧
      (Json.parse? v.json).map ofJson = some w ∧
      ((Json.parse? v.json).bind fun j => ofUntagged? (.ofJson j)) = some w ∧
      Node.write .none .default 0 ⟨[mapping [("v", v)]], ""⟩ (.interpolation "v" false) =
        ⟨[mapping [("v", v)]], v.json⟩ := by
  have hdepth : escapes.value.depth = 3 := by
    rw [value_escapes]
    decide
  have hnumbers : ∀ n ∈ escapes.value.numbers, Json.ReadsBack Json.Numeral.scaled? n := by
    have hlist : escapes.value.numbers =
        [.infinite true, .finite true .zero, .finite false tenth] := by
      rw [value_escapes]
      rfl
    rw [hlist]
    simp only [List.forall_mem_cons]
    exact ⟨rfl, readsBack_negative_zero, readsBack_tenth, nofun⟩
  have hdefinite : escapes.value.definite = mapping [("", sequence []), ("\"\\\x01<é", sequence
      [null, number (.finite true .zero), number (.finite false tenth), mapping [],
        string "\n\u2028&'\x7f"])] := by
    rw [value_escapes]
    rfl
  obtain ⟨hdecodes, -, hshown⟩ := json_decodes_back escapes (by rw [hdepth]; decide)
  obtain ⟨hdocuments, hstraight⟩ := hdecodes _ hnumbers
  refine ⟨escapes.value, escapes.value.definite, value_escapes, hdefinite, hdocuments, hstraight,
    hshown ?_ _ _ _ _ _ ?_⟩
  · rw [hdepth]
    decide
  · rfl

end Logicless.Value

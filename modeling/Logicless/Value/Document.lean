import Logicless.Json

namespace Logicless.Value

inductive WellFormed : Value → Prop
  | null : WellFormed null
  | bool (b : Bool) : WellFormed (bool b)
  | number (n : Number) : WellFormed (number n)
  | string (s : String) : WellFormed (string s)
  | sequence {items : List Value} (wellFormed : ∀ v ∈ items, WellFormed v) :
      WellFormed (sequence items)
  | mapping {entries : Dictionary Value} (ordered : entries.Ordered)
      (wellFormed : ∀ e ∈ entries, WellFormed e.2) : WellFormed (mapping entries)

end Value

/-- A value whose mappings are all in order, as those are that come from documents or from setting
keys. -/
structure OrderedValue where
  value : Value
  wellFormed : value.WellFormed

namespace Value

mutual

def depth : Value → Nat
  | sequence items => depthItems items + 1
  | mapping entries => depthEntries entries + 1
  | _ => 0

def depthItems : List Value → Nat
  | [] => 0
  | v :: vs => max (depth v) (depthItems vs)

def depthEntries : List (String × Value) → Nat
  | [] => 0
  | (_, v) :: es => max (depth v) (depthEntries es)

end

mutual

def numbers : Value → List Number
  | number n => [n]
  | sequence items => numbersItems items
  | mapping entries => numbersEntries entries
  | _ => []

def numbersItems : List Value → List Number
  | [] => []
  | v :: vs => numbers v ++ numbersItems vs

def numbersEntries : List (String × Value) → List Number
  | [] => []
  | (_, v) :: es => numbers v ++ numbersEntries es

end

mutual

/-- The value with null in place of every number that is not finite. -/
def definite : Value → Value
  | null => null
  | bool b => bool b
  | number (.finite negative m) => number (.finite negative m)
  | number _ => null
  | string s => string s
  | sequence items => sequence (definiteItems items)
  | mapping entries => mapping (definiteEntries entries)

def definiteItems : List Value → List Value
  | [] => []
  | v :: vs => definite v :: definiteItems vs

def definiteEntries : List (String × Value) → List (String × Value)
  | [] => []
  | (k, v) :: es => (k, definite v) :: definiteEntries es

end

mutual

def document : Value → Json
  | null => .null
  | bool b => .bool b
  | number (.finite negative m) => .real (.finite negative m)
  | number _ => .null
  | string s => .string s
  | sequence items => .array (documentItems items)
  | mapping entries => .object (documentMembers entries)

def documentItems : List Value → List Json
  | [] => []
  | v :: vs => document v :: documentItems vs

def documentMembers : List (String × Value) → List (String × Json)
  | [] => []
  | (k, v) :: es => (k, document v) :: documentMembers es

end

end Logicless.Value

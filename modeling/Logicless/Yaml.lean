import Logicless.Json
import Logicless.Value.Text

namespace Logicless

inductive Yaml where
  | null
  | bool (b : Bool)
  | integer (n : Int)
  | real (n : Number)
  | string (s : String)
  | sequence (items : List Yaml)
  | mapping (entries : List (Yaml × Yaml))
  | tagged (tag : String) (content : Yaml)

def Layout.yaml : Layout :=
  ⟨fun e => -5 ≤ e && e ≤ 15, true, false, .toEven, ".nan", ".inf", "-.inf"⟩

namespace Yaml

mutual

/-- Equality of documents as keys: a NaN equals itself, and the order of entries is ignored. -/
def equal : Yaml → Yaml → Bool
  | null, null => true
  | bool a, bool b => a == b
  | integer a, integer b => a == b
  | real a, real b => a == b || a.equal b
  | string a, string b => a == b
  | sequence as, sequence bs => equalItems as bs
  | mapping as, mapping bs => as.length == bs.length && subsumed as bs
  | tagged s a, tagged t b => s == t && equal a b
  | _, _ => false

def equalItems : List Yaml → List Yaml → Bool
  | [], [] => true
  | a :: as, b :: bs => equal a b && equalItems as bs
  | _, _ => false

def subsumed : List (Yaml × Yaml) → List (Yaml × Yaml) → Bool
  | [], _ => true
  | (k, v) :: as, bs => bs.any (fun (l, w) => equal k l && equal v w) && subsumed as bs

end

/-- The text of a key that is a scalar other than null; all other keys have none. -/
def keyText? : Yaml → Option String
  | string s => some s
  | bool b => some (if b then "true" else "false")
  | integer n => some (toString n)
  | real n => some (Layout.yaml.text n)
  | _ => none

mutual

def ofJson : Json → Yaml
  | .null => null
  | .bool b => bool b
  | .integer n => integer n
  | .real n => real n
  | .string s => string s
  | .array items => sequence (ofJsonItems items)
  | .object members => mapping (ofJsonMembers members)

def ofJsonItems : List Json → List Yaml
  | [] => []
  | j :: js => ofJson j :: ofJsonItems js

def ofJsonMembers : List (String × Json) → List (Yaml × Yaml)
  | [] => []
  | (k, j) :: ms => (string k, ofJson j) :: ofJsonMembers ms

end

end Yaml

namespace Value

mutual

/-- The value of a YAML document: tags are ignored, keys become their texts, and entries whose key
has none are left out. Of the entries with one key the last counts. -/
def ofYaml : Yaml → Value
  | .null => null
  | .bool b => bool b
  | .integer n => number (.ofInt n)
  | .real n => number n
  | .string s => string s
  | .sequence items => sequence (ofYamlItems items)
  | .mapping entries => ofEntries (ofYamlEntries entries)
  | .tagged _ content => ofYaml content

def ofYamlItems : List Yaml → List Value
  | [] => []
  | y :: ys => ofYaml y :: ofYamlItems ys

def ofYamlEntries : List (Yaml × Yaml) → List (String × Value)
  | [] => []
  | (k, y) :: es =>
    match k.keyText? with
    | some key => (key, ofYaml y) :: ofYamlEntries es
    | none => ofYamlEntries es

end

mutual

/-- The value of a document that has the shape of values as it is: no tags, and texts for keys. Of
the entries with one key the last counts. -/
def ofUntagged? : Yaml → Option Value
  | .null => some null
  | .bool b => some (bool b)
  | .integer n => some (number (.ofInt n))
  | .real n => some (number n)
  | .string s => some (string s)
  | .sequence items => (ofUntaggedItems? items).map sequence
  | .mapping entries => (ofUntaggedEntries? entries).map ofEntries
  | .tagged _ _ => none

def ofUntaggedItems? : List Yaml → Option (List Value)
  | [] => some []
  | y :: ys =>
    match ofUntagged? y, ofUntaggedItems? ys with
    | some v, some vs => some (v :: vs)
    | _, _ => none

def ofUntaggedEntries? : List (Yaml × Yaml) → Option (List (String × Value))
  | [] => some []
  | (.string k, y) :: es =>
    match ofUntagged? y, ofUntaggedEntries? es with
    | some v, some vs => some ((k, v) :: vs)
    | _, _ => none
  | _ :: _ => none

end

end Value

end Logicless

import Mathlib.Data.List.Forall2
import Mathlib.Data.Option.Basic
import Logicless.Yaml

namespace Logicless

def Json.member? (key : String) (members : List (String × Json)) : Option Json :=
  members.reverse.lookup key

def Json.number? : Json → Option Number
  | integer n => some (.ofInt n)
  | real n => some n
  | _ => none

namespace Yaml

def number? : Yaml → Option Number
  | integer n => some (.ofInt n)
  | real n => some n
  | _ => none

/-- The text that a key is written as. Null, collections and documents with a tag have none. -/
inductive KeyText : Yaml → String → Prop
  | string (s : String) : KeyText (.string s) s
  | true : KeyText (.bool true) "true"
  | false : KeyText (.bool false) "false"
  | integer (n : Int) : KeyText (.integer n) (toString n)
  | real (n : Number) : KeyText (.real n) (Layout.yaml.text n)

theorem keyText?_eq_some_iff {k : Yaml} {key : String} : k.keyText? = some key ↔ k.KeyText key := by
  constructor
  · intro h
    cases k with
    | string s =>
      cases h
      exact .string key
    | bool b =>
      cases h
      cases b
      · exact .false
      · exact .true
    | integer n =>
      cases h
      exact .integer n
    | real n =>
      cases h
      exact .real n
    | null | sequence | mapping | tagged => cases h
  · intro h
    cases h <;> rfl

instance (k : Yaml) (key : String) : Decidable (k.KeyText key) :=
  decidable_of_iff _ keyText?_eq_some_iff

/-- Of the entries whose keys are written as one text, the last counts. -/
def value? (key : String) (entries : List (Yaml × Yaml)) : Option Yaml :=
  (entries.reverse.find? fun e => e.1.KeyText key).map Prod.snd

/-- The value that a document stands for. Tags mean nothing, and a mapping has an entry for each
text that one of its keys is written as. -/
inductive Means : Yaml → Value → Prop
  | null : Means .null .null
  | bool (b : Bool) : Means (.bool b) (.bool b)
  | number {y : Yaml} {n : Number} (h : y.number? = some n) : Means y (.number n)
  | string (s : String) : Means (.string s) (.string s)
  | sequence {items : List Yaml} {vs : List Value} (h : List.Forall₂ Means items vs) :
    Means (.sequence items) (.sequence vs)
  | mapping {entries : List (Yaml × Yaml)} {t : Table Value}
    (h : ∀ key, Option.Rel Means (value? key entries) (t.find? key)) :
    Means (.mapping entries) (.mapping t.entries)
  | tagged {tag : String} {content : Yaml} {v : Value} (h : Means content v) :
    Means (.tagged tag content) v

/-- A JSON document and a YAML document of the same shape: without tags, with texts for keys, and
with the same numbers, however they are written. -/
inductive SameShape : Json → Yaml → Prop
  | null : SameShape .null .null
  | bool (b : Bool) : SameShape (.bool b) (.bool b)
  | number {j : Json} {y : Yaml} {n : Number} (hj : j.number? = some n) (hy : y.number? = some n) :
    SameShape j y
  | string (s : String) : SameShape (.string s) (.string s)
  | array {js : List Json} {ys : List Yaml} (h : List.Forall₂ SameShape js ys) :
    SameShape (.array js) (.sequence ys)
  | object {members : List (String × Json)} {entries : List (Yaml × Yaml)}
    (texts : ∀ e ∈ entries, ∃ key, e.1 = .string key)
    (h : ∀ key, Option.Rel SameShape (Json.member? key members) (value? key entries)) :
    SameShape (.object members) (.mapping entries)

end Yaml

end Logicless

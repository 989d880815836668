import Logicless.Dictionary
import Logicless.Number

namespace Logicless

inductive Value where
  | null
  | bool (b : Bool)
  | number (n : Number)
  | string (s : String)
  | sequence (items : List Value)
  /-- The entries are a `Dictionary`, in increasing order of their keys. -/
  | mapping (entries : List (String × Value))

namespace Value

instance : Inhabited Value := ⟨null⟩

def empty : Value := mapping []

def entries : Value → Dictionary Value
  | mapping entries => entries
  | _ => []

/-- No value stands for a missing key; a key that holds null has the value null. -/
def get? (v : Value) (key : String) : Option Value :=
  v.entries.find? key

/-- Sets a key. A value that is no mapping gives way to an empty mapping first. -/
def set (v : Value) (key : String) (value : Value) : Value :=
  mapping (Dictionary.insert key value v.entries)

def ofEntries (entries : List (String × Value)) : Value :=
  mapping (Dictionary.ofList entries)

def isNull : Value → Bool
  | null => true
  | _ => false

/-- Whether a section of this value is shown. Null, false, zero, NaN, the empty text and empty
collections are not; the text `0` is. -/
def isTruthy : Value → Bool
  | null => false
  | bool b => b
  | number .nan => false
  | number n => !n.isZero
  | string s => !s.isEmpty
  | sequence items => !items.isEmpty
  | mapping entries => !entries.isEmpty

mutual

/-- Equality of values, in which numbers are compared by `Number.equal`. -/
def equal : Value → Value → Bool
  | null, null => true
  | bool a, bool b => a == b
  | number a, number b => a.equal b
  | string a, string b => a == b
  | sequence as, sequence bs => equalItems as bs
  | mapping as, mapping bs => equalEntries as bs
  | _, _ => false

def equalItems : List Value → List Value → Bool
  | [], [] => true
  | a :: as, b :: bs => equal a b && equalItems as bs
  | _, _ => false

def equalEntries : List (String × Value) → List (String × Value) → Bool
  | [], [] => true
  | (k, a) :: as, (l, b) :: bs => k == l && equal a b && equalEntries as bs
  | _, _ => false

end

end Value

end Logicless

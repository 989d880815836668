import Logicless.Value

namespace Logicless

inductive Json where
  | null
  | bool (b : Bool)
  /-- A number that is written as an integer and fits into 64 bits, signed or not. -/
  | integer (n : Int)
  | real (n : Number)
  | string (s : String)
  | array (items : List Json)
  /-- The members in the order of the text; a key may occur more than once. -/
  | object (members : List (String × Json))

namespace Value

mutual

def ofJson : Json → Value
  | .null => null
  | .bool b => bool b
  | .integer n => number (.ofInt n)
  | .real n => number n
  | .string s => string s
  | .array items => sequence (ofJsonItems items)
  | .object members => ofEntries (ofJsonMembers members)

def ofJsonItems : List Json → List Value
  | [] => []
  | j :: js => ofJson j :: ofJsonItems js

def ofJsonMembers : List (String × Json) → List (String × Value)
  | [] => []
  | (k, j) :: ms => (k, ofJson j) :: ofJsonMembers ms

end

end Value

end Logicless

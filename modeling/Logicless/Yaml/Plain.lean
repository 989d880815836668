import Logicless.Number.Literal
import Logicless.Yaml
import Logicless.Yaml.Tag

namespace Logicless.Yaml

def isNull (s : String) : Bool :=
  s == "~" || s == "null" || s == "Null" || s == "NULL"

def bool? (s : String) : Option Bool :=
  if s == "true" || s == "True" || s == "TRUE" then some true
  else if s == "false" || s == "False" || s == "FALSE" then some false
  else none

/-- Digits behind a leading zero, as in a telephone number; they are a text. -/
def isZeroPadded (cs : List Char) : Bool :=
  let cs := if cs.head?.any (fun c => c == '-' || c == '+') then cs.drop 1 else cs
  1 < cs.length && cs.head? == some '0' && cs.all Char.isDigit

def digitsIn? (base : Nat) (cs : List Char) : Option Nat :=
  if cs.isEmpty then none
  else
    cs.foldlM
      (fun n c => (hexValue? c).bind fun d => if d < base then some (n * base + d) else none) 0

def base? : Char → Option Nat
  | 'x' => some 16
  | 'o' => some 8
  | 'b' => some 2
  | _ => none

def natural? (cs : List Char) : Option Nat :=
  match cs with
  | '0' :: c :: rest =>
    match base? c with
    | some base => digitsIn? base rest
    | none => if isZeroPadded cs then none else digitsIn? 10 cs
  | cs => if isZeroPadded cs then none else digitsIn? 10 cs

/-- What an integer is read as: those beyond 64 bits are refused up to 128 bits, and are no
integers from there on. -/
inductive IntegerReading where
  | integer (n : Int)
  | refused
  | notInteger

def integerReading (cs : List Char) : IntegerReading :=
  match cs with
  | '-' :: rest =>
    match natural? rest with
    | some n =>
      if n ≤ Nat.pow 2 63 then .integer (-n)
      else if n ≤ Nat.pow 2 127 then .refused
      else .notInteger
    | none => .notInteger
  | cs =>
    let digits := if cs.head? == some '+' then cs.drop 1 else cs
    match natural? digits with
    | some n =>
      if n < Nat.pow 2 64 then .integer n
      else if n < Nat.pow 2 128 then .refused
      else .notInteger
    | none => .notInteger

/-- Reals need a digit, or are one of the spellings of infinity and NaN. Decimals that are too
great are none. -/
def real? (s : String) : Option Number :=
  let cs := s.toList
  let unsigned := if cs.head? == some '+' then cs.drop 1 else cs
  if [".inf", ".Inf", ".INF"].contains (String.ofList unsigned) then some (.infinite false)
  else if ["-.inf", "-.Inf", "-.INF"].contains s then some (.infinite true)
  else if [".nan", ".NaN", ".NAN"].contains s then some .nan
  else if cs.head? == some '+' && unsigned.head?.any (fun c => c == '+' || c == '-') then none
  else
    match Number.ofLiteral? unsigned with
    | some (.finite negative m) => some (.finite negative m)
    | _ => none

def ofPlain? (s : String) : Option Yaml :=
  if s.isEmpty || isNull s then some null
  else
    match bool? s with
    | some b => some (bool b)
    | none =>
      match integerReading s.toList with
      | .integer n => some (integer n)
      | .refused => none
      | .notInteger =>
        match if isZeroPadded s.toList then none else real? s with
        | some n => some (real n)
        | none => some (string s)

def ofUntagged? (content : String) (plain : Bool) : Option Yaml :=
  if plain then ofPlain? content else some (string content)

def ofScalar? (tag : Option Tag) (content : String) (plain : Bool) : Option Yaml :=
  match tag with
  | none => ofUntagged? content plain
  | some .null => if isNull content then some null else none
  | some .bool => (bool? content).map bool
  | some .integer =>
    match integerReading content.toList with
    | .integer n => some (integer n)
    | _ => none
  | some .real => (real? content).map real
  | some (.custom name) => (ofUntagged? content plain).map (tagged name)
  | some .other => some (string content)

end Logicless.Yaml

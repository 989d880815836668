import Logicless.Number.Layout
import Logicless.Text.Quoted
import Logicless.Value

namespace Logicless

def Layout.output : Layout :=
  ⟨fun _ => true, false, false, .away, "NaN", "inf", "-inf"⟩

/-- JSON keeps the point of a whole number, writes a plus before an exponent, and has null in place
of what is not finite. -/
def Layout.json : Layout :=
  ⟨fun e => -5 ≤ e && e ≤ 15, true, true, .toEven, "null", "null", "null"⟩

def Layout.diagnostic : Layout :=
  ⟨fun e => -4 ≤ e && e ≤ 15, true, false, .away, "NaN", "inf", "-inf"⟩

/-- A whole number below 10¹⁵ is written as an integer, so that zero has no sign. -/
def Number.output (n : Number) : String :=
  match n with
  | .finite negative m =>
    if m.isWhole && m.floor < Nat.pow 10 15 then
      toString (if negative then -(m.floor : Int) else m.floor)
    else Layout.output.text n
  | n => Layout.output.text n

namespace Json

def quotedChar : Char → List Char
  | '"' => ['\\', '"']
  | '\\' => ['\\', '\\']
  | '\x08' => ['\\', 'b']
  | '\x0c' => ['\\', 'f']
  | '\n' => ['\\', 'n']
  | '\r' => ['\\', 'r']
  | '\t' => ['\\', 't']
  | c =>
    if c.toNat < 0x20 then
      ['\\', 'u', '0', '0', Nat.digitChar (c.toNat / 16), Nat.digitChar (c.toNat % 16)]
    else [c]

def quotedChars (s : String) : List Char :=
  '"' :: s.toList.flatMap quotedChar ++ ['"']

end Json

namespace Value

mutual

def jsonChars : Value → List Char
  | null => ['n', 'u', 'l', 'l']
  | bool true => ['t', 'r', 'u', 'e']
  | bool false => ['f', 'a', 'l', 's', 'e']
  | number n => (Layout.json.text n).toList
  | string s => Json.quotedChars s
  | sequence items => '[' :: jsonItems items ++ [']']
  | mapping entries => '{' :: jsonEntries entries ++ ['}']

def jsonItems : List Value → List Char
  | [] => []
  | [v] => jsonChars v
  | v :: vs => jsonChars v ++ ',' :: jsonItems vs

def jsonEntries : List (String × Value) → List Char
  | [] => []
  | [(k, v)] => Json.quotedChars k ++ ':' :: jsonChars v
  | (k, v) :: es => Json.quotedChars k ++ ':' :: jsonChars v ++ ',' :: jsonEntries es

end

def json (v : Value) : String :=
  String.ofList v.jsonChars

/-- What a template shows for a value: nothing for null, and JSON for collections. -/
def output : Value → String
  | null => ""
  | bool b => if b then "true" else "false"
  | number n => n.output
  | string s => s
  | v => v.json

mutual

def diagnostic : Value → String
  | null => "Null"
  | bool b => "Bool(" ++ (if b then "true" else "false") ++ ")"
  | number n => "Number(" ++ Layout.diagnostic.text n ++ ")"
  | string s => "String(" ++ Text.quoted s ++ ")"
  | sequence items => "Sequence([" ++ diagnosticItems items ++ "])"
  | mapping entries => "Mapping(\x7b" ++ diagnosticEntries entries ++ "\x7d)"

def diagnosticItems : List Value → String
  | [] => ""
  | [v] => diagnostic v
  | v :: vs => diagnostic v ++ ", " ++ diagnosticItems vs

def diagnosticEntries : List (String × Value) → String
  | [] => ""
  | [(k, v)] => Text.quoted k ++ ": " ++ diagnostic v
  | (k, v) :: es => Text.quoted k ++ ": " ++ diagnostic v ++ ", " ++ diagnosticEntries es

end

end Value

end Logicless

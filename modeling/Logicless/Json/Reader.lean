import Logicless.Json
import Logicless.Json.Numeral

namespace Logicless.Json

def isBlank (c : Char) : Bool :=
  c == ' ' || c == '\t' || c == '\n' || c == '\r'

def skipBlanks (cs : List Char) : List Char :=
  cs.dropWhile isBlank

def hexDigit? (c : Char) : Option Nat :=
  if c.isDigit then some (c.toNat - '0'.toNat)
  else if 'a' ≤ c && c ≤ 'f' then some (c.toNat - 'a'.toNat + 10)
  else if 'A' ≤ c && c ≤ 'F' then some (c.toNat - 'A'.toNat + 10)
  else none

def codeUnit? (a b c d : Char) : Option Nat := do
  let a ← hexDigit? a
  let b ← hexDigit? b
  let c ← hexDigit? c
  let d ← hexDigit? d
  return ((a * 16 + b) * 16 + c) * 16 + d

def shortEscape? : Char → Option Char
  | '"' => some '"'
  | '\\' => some '\\'
  | '/' => some '/'
  | 'b' => some '\x08'
  | 'f' => some '\x0c'
  | 'n' => some '\n'
  | 'r' => some '\r'
  | 't' => some '\t'
  | _ => none

/-- The rest of a text in quotes, up to its closing quote, and what follows that. A surrogate
counts only as one of a pair, the high one first. -/
def readQuoted : List Char → Option (List Char × List Char)
  | [] => none
  | '"' :: cs => some ([], cs)
  | '\\' :: 'u' :: a :: b :: c :: d :: cs =>
    match codeUnit? a b c d with
    | none => none
    | some unit =>
      if 0xDC00 ≤ unit && unit < 0xE000 then none
      else if 0xD800 ≤ unit && unit < 0xDC00 then
        match cs with
        | '\\' :: 'u' :: e :: f :: g :: h :: cs =>
          match codeUnit? e f g h with
          | none => none
          | some low =>
            if 0xDC00 ≤ low && low < 0xE000 then
              let code := 0x10000 + (unit - 0xD800) * 0x400 + (low - 0xDC00)
              (readQuoted cs).map fun (s, rest) => (Char.ofNat code :: s, rest)
            else none
        | _ => none
      else (readQuoted cs).map fun (s, rest) => (Char.ofNat unit :: s, rest)
  | '\\' :: c :: cs =>
    match shortEscape? c with
    | none => none
    | some c => (readQuoted cs).map fun (s, rest) => (c :: s, rest)
  | c :: cs =>
    if c.toNat < 0x20 || c == '\\' then none
    else (readQuoted cs).map fun (s, rest) => (c :: s, rest)

def readWhole : List Char → Option (List Char × List Char)
  | '0' :: cs => some (['0'], cs)
  | c :: cs =>
    if c.isDigit then some (c :: cs.takeWhile Char.isDigit, cs.dropWhile Char.isDigit) else none
  | [] => none

def readFraction : List Char → Option (List Char × List Char)
  | '.' :: cs =>
    let digits := cs.takeWhile Char.isDigit
    if digits.isEmpty then none else some (digits, cs.dropWhile Char.isDigit)
  | cs => some ([], cs)

def readExponentDigits (negative : Bool) (cs : List Char) : Option (Int × List Char) :=
  let digits := cs.takeWhile Char.isDigit
  if digits.isEmpty then none
  else
    let e := digitsValue 0 digits
    some (if negative then -(e : Int) else e, cs.dropWhile Char.isDigit)

def readExponent : List Char → Option (Int × List Char)
  | c :: cs =>
    if c == 'e' || c == 'E' then
      match cs with
      | '-' :: cs => readExponentDigits true cs
      | '+' :: cs => readExponentDigits false cs
      | cs => readExponentDigits false cs
    else some (0, c :: cs)
  | [] => some (0, [])

/-- A number that is written with digits alone, if it is one of the integers from -2⁶³ to 2⁶⁴ - 1
and not a zero with a sign. -/
def integer? (negative : Bool) (digits : Nat) : Option Int :=
  if negative then
    if 0 < digits && digits ≤ Nat.pow 2 63 then some (-digits) else none
  else if digits < Nat.pow 2 64 then some digits
  else none

def hasTail (cs : List Char) : Bool :=
  cs.head?.any fun c => c == '.' || c == 'e' || c == 'E'

section

variable (round : Rounding)

def readMagnitude (negative : Bool) (cs : List Char) : Option (Json × List Char) := do
  let (whole, tail) ← readWhole cs
  let (fraction, cs) ← readFraction tail
  let (exponent, rest) ← readExponent cs
  let json ←
    match if hasTail tail then none else integer? negative (digitsValue 0 whole) with
    | some n => some (.integer n)
    | none => (round ⟨whole, fraction, exponent⟩).map fun m => .real (.finite negative m)
  return (json, rest)

def readScalar : List Char → Option (Json × List Char)
  | 'n' :: 'u' :: 'l' :: 'l' :: cs => some (.null, cs)
  | 't' :: 'r' :: 'u' :: 'e' :: cs => some (.bool true, cs)
  | 'f' :: 'a' :: 'l' :: 's' :: 'e' :: cs => some (.bool false, cs)
  | '"' :: cs => (readQuoted cs).map fun (s, rest) => (.string (String.ofList s), rest)
  | '-' :: cs => readMagnitude round true cs
  | cs => readMagnitude round false cs

end

def readItems (read : List Char → Option (Json × List Char)) :
    Nat → List Char → Option (List Json × List Char)
  | 0, _ => none
  | fuel + 1, cs => do
    let (item, cs) ← read cs
    match skipBlanks cs with
    | ',' :: cs =>
      let (items, cs) ← readItems read fuel cs
      return (item :: items, cs)
    | ']' :: cs => return ([item], cs)
    | _ => none

def readKey (cs : List Char) : Option (String × List Char) :=
  match skipBlanks cs with
  | '"' :: cs => do
    let (key, cs) ← readQuoted cs
    match skipBlanks cs with
    | ':' :: cs => return (String.ofList key, cs)
    | _ => none
  | _ => none

def readMembers (read : List Char → Option (Json × List Char)) :
    Nat → List Char → Option (List (String × Json) × List Char)
  | 0, _ => none
  | fuel + 1, cs => do
    let (key, cs) ← readKey cs
    let (item, cs) ← read cs
    match skipBlanks cs with
    | ',' :: cs =>
      let (members, cs) ← readMembers read fuel cs
      return ((key, item) :: members, cs)
    | '}' :: cs => return ([(key, item)], cs)
    | _ => none

def readDocument (round : Rounding) : Nat → List Char → Option (Json × List Char)
  | 0, cs => readScalar round (skipBlanks cs)
  | depth + 1, cs =>
    match skipBlanks cs with
    | '[' :: cs =>
      match skipBlanks cs with
      | ']' :: cs => some (.array [], cs)
      | cs =>
        (readItems (readDocument round depth) cs.length cs).map fun (js, rest) => (.array js, rest)
    | '{' :: cs =>
      match skipBlanks cs with
      | '}' :: cs => some (.object [], cs)
      | cs =>
        (readMembers (readDocument round depth) cs.length cs).map
          fun (ms, rest) => (.object ms, rest)
    | cs => readScalar round cs

/-- The document of a JSON text, whose arrays and objects nest at most as deep as given, and whose
numbers are rounded as given. -/
def parseBy? (round : Rounding) (depth : Nat) (text : String) : Option Json :=
  match readDocument round depth text.toList with
  | some (json, rest) => if (skipBlanks rest).isEmpty then some json else none
  | none => none

/-- Numbers are rounded in two steps, so that the text of a number need not read back. -/
def parseWithin? (depth : Nat) (text : String) : Option Json :=
  parseBy? Numeral.scaled? depth text

def maxDepth : Nat := 127

/-- Reads a text as RFC 8259 has it: no byte order mark, no comma at the end of a list, nothing
behind the document. A number that is too great is an error. -/
def parse? (text : String) : Option Json :=
  parseWithin? maxDepth text

end Logicless.Json

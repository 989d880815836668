import Logicless.Number.Decimal

namespace Logicless.Json

structure Numeral where
  whole : List Char
  fraction : List Char
  exponent : Int

/-- How numerals are rounded; those that are too great have no magnitude. -/
abbrev Rounding := Numeral → Option Magnitude

namespace Numeral

def nearest? (n : Numeral) : Option Magnitude :=
  Decimal.magnitude?
    ⟨digitsValue (digitsValue 0 n.whole) n.fraction, n.exponent - n.fraction.length⟩

/-- Takes digits into a word of 64 bits as long as it holds them, and counts those that are left. -/
def takeDigits (word : Nat) : List Char → Nat × Nat
  | [] => (word, 0)
  | d :: ds =>
    let next := word * 10 + (d.toNat - '0'.toNat)
    if next < Nat.pow 2 64 then takeDigits next ds else (word, ds.length + 1)

def decimal (n : Numeral) : Decimal :=
  let (word, wholeLeft) := takeDigits 0 n.whole
  let (word, fractionLeft) := takeDigits word n.fraction
  ⟨word, n.exponent + wholeLeft - (n.fraction.length - fractionLeft : Nat)⟩

/-- Rounds the digits first, and once more when the power of ten comes in. With many digits, or a
great exponent, the result can be next to the nearest magnitude. -/
def scaled? (n : Numeral) : Option Magnitude := do
  let d := n.decimal
  let m ← Magnitude.nearest? (d.digits * Nat.pow 2 1074) 1
  match d.exponent with
  | .ofNat k => m.mulTenPow? k
  | .negSucc k => m.divTenPow? (k + 1)

end Numeral

end Logicless.Json

namespace Logicless

/-- The value `significand * 2 ^ scale`, counted in units of 2⁻¹⁰⁷⁴. Each value has one form:
only at the least scale may the significand have fewer than 53 bits. -/
structure Magnitude where
  significand : Nat
  scale : Nat
  significand_lt : significand < Nat.pow 2 53
  normal : scale = 0 ∨ Nat.pow 2 52 ≤ significand
  scale_le : scale ≤ 2045
deriving DecidableEq

namespace Magnitude

def zero : Magnitude :=
  ⟨0, 0, by decide, .inl rfl, by decide⟩

def units (m : Magnitude) : Nat :=
  m.significand * Nat.pow 2 m.scale

def ofParts? (significand scale : Nat) : Option Magnitude :=
  if h : significand < Nat.pow 2 53 ∧ (scale = 0 ∨ Nat.pow 2 52 ≤ significand) ∧ scale ≤ 2045 then
    some ⟨significand, scale, h.1, h.2.1, h.2.2⟩
  else none

/-- The whole number nearest to a quotient; a half goes to the even neighbour. -/
def divNearest (num den : Nat) : Nat :=
  let q := num / den
  let r := num % den
  if 2 * r < den ∨ 2 * r = den ∧ q % 2 = 0 then q else q + 1

/-- The magnitude nearest to a quotient of units, or none if that is beyond the greatest one. -/
def nearest? (num den : Nat) : Option Magnitude :=
  let scale := (num / den).log2 - 52
  let significand := divNearest num (den * Nat.pow 2 scale)
  if significand = Nat.pow 2 53 then ofParts? (Nat.pow 2 52) (scale + 1)
  else ofParts? significand scale

def mul? (m n : Magnitude) : Option Magnitude :=
  nearest? (m.units * n.units) (Nat.pow 2 1074)

def div? (m n : Magnitude) : Option Magnitude :=
  nearest? (m.units * Nat.pow 2 1074) n.units

def isWhole (m : Magnitude) : Bool :=
  m.units % Nat.pow 2 1074 == 0

def floor (m : Magnitude) : Nat :=
  m.units / Nat.pow 2 1074

end Magnitude

inductive Number where
  | nan
  | infinite (negative : Bool)
  | finite (negative : Bool) (magnitude : Magnitude)
deriving DecidableEq

namespace Number

def isZero : Number → Bool
  | finite _ m => m.significand == 0
  | _ => false

/-- Equality of values: the two zeros are equal, and a NaN equals nothing. -/
def equal : Number → Number → Bool
  | nan, _ => false
  | _, nan => false
  | x, y => x.isZero && y.isZero || x == y

def ofMagnitude? (negative : Bool) : Option Magnitude → Number
  | some m => finite negative m
  | none => infinite negative

def ofInt (n : Int) : Number :=
  ofMagnitude? (n < 0) (Magnitude.nearest? (n.natAbs * Nat.pow 2 1074) 1)

def signBit (negative : Bool) : Nat :=
  if negative then Nat.pow 2 63 else 0

def bits : Number → Nat
  | nan => 0x7FF8000000000000
  | infinite negative => signBit negative + 2047 * Nat.pow 2 52
  | finite negative m =>
    if m.significand < Nat.pow 2 52 then signBit negative + m.significand
    else signBit negative + (m.scale + 1) * Nat.pow 2 52 + (m.significand - Nat.pow 2 52)

end Number

end Logicless

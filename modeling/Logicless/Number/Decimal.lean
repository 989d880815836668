import Logicless.Number

namespace Logicless

structure Decimal where
  digits : Nat
  exponent : Int
deriving DecidableEq

def decimalSize (n : Nat) : Nat :=
  if n < 10 then 1 else decimalSize (n / 10) + 1

def digitsValue (start : Nat) (digits : List Char) : Nat :=
  digits.foldl (fun n d => n * 10 + (d.toNat - '0'.toNat)) start

namespace Decimal

/-- The nearest magnitude to a decimal, or none if that is beyond the greatest one. Decimals from
10³¹⁰ on are beyond it and those below 10⁻³²⁵ are nearest to zero. -/
def magnitude? (d : Decimal) : Option Magnitude :=
  let top := d.exponent + decimalSize d.digits
  if d.digits = 0 ∨ top < -325 then some .zero
  else if 311 ≤ top then none
  else
    match d.exponent with
    | .ofNat e => Magnitude.nearest? (d.digits * Nat.pow 10 e * Nat.pow 2 1074) 1
    | .negSucc e => Magnitude.nearest? (d.digits * Nat.pow 2 1074) (Nat.pow 10 (e + 1))

def stripZeros (d : Decimal) : Decimal :=
  if d.digits = 0 then ⟨0, 0⟩
  else if d.digits % 10 = 0 then stripZeros ⟨d.digits / 10, d.exponent + 1⟩
  else d
termination_by d.digits
decreasing_by omega

end Decimal

/-- Which neighbour a decimal takes that lies half way between two. -/
inductive Tie where
  | toEven
  | away
deriving DecidableEq

def Tie.takesLow (tie : Tie) (low : Nat) : Bool :=
  match tie with
  | toEven => low % 2 == 0
  | away => false

namespace Magnitude

def decimal (m : Magnitude) : Decimal :=
  if 1074 ≤ m.scale then ⟨m.significand * Nat.pow 2 (m.scale - 1074), 0⟩
  else ⟨m.significand * Nat.pow 5 (1074 - m.scale), -((1074 - m.scale : Nat) : Int)⟩

/-- Of the two decimals next to the exact value once its last `drop` digits are left out, the
nearer one that reads back. -/
def roundedDecimal? (tie : Tie) (m : Magnitude) (drop : Nat) : Option Decimal :=
  let exact := m.decimal
  let unit := Nat.pow 10 drop
  let low := exact.digits / unit
  let rest := exact.digits % unit
  let below : Decimal := ⟨low, exact.exponent + drop⟩
  let above : Decimal := ⟨low + 1, exact.exponent + drop⟩
  let candidates :=
    if 2 * rest < unit || 2 * rest == unit && tie.takesLow low then [below, above]
    else [above, below]
  candidates.find? fun d => d.magnitude? == some m

def tenPow? (k : Nat) : Option Magnitude :=
  Decimal.magnitude? ⟨1, k⟩

def mulTenPow? (m : Magnitude) (k : Nat) : Option Magnitude :=
  if m.significand = 0 then some m else (tenPow? k).bind m.mul?

/-- Divides by a power of ten, in several steps if it is beyond the greatest one that is a
magnitude. -/
def divTenPow? (m : Magnitude) (k : Nat) : Option Magnitude :=
  if m.significand = 0 then some m
  else if h : k ≤ 308 then (tenPow? k).bind m.div?
  else (tenPow? 308).bind fun p => (m.div? p).bind fun q => q.divTenPow? (k - 308)
termination_by k
decreasing_by omega

def shortest (tie : Tie) (m : Magnitude) : Decimal :=
  let size := decimalSize m.decimal.digits
  let found := (List.range size).findSome? fun kept => m.roundedDecimal? tie (size - 1 - kept)
  (found.getD m.decimal).stripZeros

end Magnitude

def Number.ofDecimal (negative : Bool) (d : Decimal) : Number :=
  .ofMagnitude? negative d.magnitude?

end Logicless

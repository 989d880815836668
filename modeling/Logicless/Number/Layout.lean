import Logicless.Number.Decimal

namespace Logicless

/-- The exponent of a number is that of its first digit. -/
structure Layout where
  /-- The exponents from and up to which the digits stand in their places, with no exponent. -/
  positional : Int → Bool
  /-- A whole number ends in `.0` when its digits stand in their places. -/
  point : Bool
  plus : Bool
  tie : Tie
  nan : String
  infinity : String
  negativeInfinity : String

namespace Layout

def positionalText (l : Layout) (d : Decimal) : String :=
  let digits := Nat.repr d.digits
  match d.exponent with
  | .ofNat e => digits ++ String.ofList (List.replicate e '0') ++ if l.point then ".0" else ""
  | .negSucc e =>
    let padded := List.replicate (e + 2 - digits.length) '0' ++ digits.toList
    let whole := padded.length - (e + 1)
    String.ofList (padded.take whole) ++ "." ++ String.ofList (padded.drop whole)

def exponentText (l : Layout) (d : Decimal) (exponent : Int) : String :=
  let mantissa :=
    match (Nat.repr d.digits).toList with
    | [] => ""
    | [c] => String.singleton c
    | c :: cs => String.singleton c ++ "." ++ String.ofList cs
  mantissa ++ "e" ++ (if l.plus && 0 ≤ exponent then "+" else "") ++ toString exponent

def magnitudeText (l : Layout) (m : Magnitude) : String :=
  let d := m.shortest l.tie
  let exponent := d.exponent + decimalSize d.digits - 1
  if m.significand == 0 || l.positional exponent then l.positionalText d
  else l.exponentText d exponent

def text (l : Layout) : Number → String
  | .nan => l.nan
  | .infinite negative => if negative then l.negativeInfinity else l.infinity
  | .finite negative m => (if negative then "-" else "") ++ l.magnitudeText m

end Layout

end Logicless

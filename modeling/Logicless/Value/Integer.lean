import Logicless.Value

namespace Logicless

/-- The word of what is left of a number without its fraction; a number that is too great or too
small becomes the greatest or the least word, and a NaN zero. -/
def Number.toInt64 : Number → Int64
  | nan => 0
  | infinite negative => if negative then Int64.minValue else Int64.maxValue
  | finite negative m => Int64.ofIntClamp (if negative then -(m.floor : Int) else m.floor)

def Value.ofInt64 (k : Int64) : Value :=
  number (.ofInt k.toInt)

def integerText (k : Int) : String :=
  (if k < 0 then "-" else "") ++ String.ofList (Nat.toDigits 10 k.natAbs)

end Logicless

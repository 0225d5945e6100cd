import GlobalSurvey.Decimal.Text
import GlobalSurvey.Value

/-!
# Numbers that are either integers or floats
-/
namespace GlobalSurvey

/-- An integer or a float. -/
inductive Number where
  | int (n : Int)
  | float (f : Float)

namespace Number

def toFloat : Number → Float
  | .int n => let f := Decimal.toFloat n.natAbs 0; if n < 0 then -f else f
  | .float f => f

def isBeyondFloats : Number → Bool
  | .int n => (Number.int n).toFloat.isInf
  | .float _ => false

def isAtMostZero : Number → Bool
  | .int n => n ≤ 0
  | .float f => f ≤ 0

def value : Number → Value
  | .int n => .int n
  | .float f => .float f

/-- The text of the number that reads back. -/
def text : Number → String
  | .int n => toString n
  | .float f => Decimal.floatText f

def general (n : Number) : String := String.ofList (Decimal.Parts.ofFloat n.toFloat).general

end Number

end GlobalSurvey

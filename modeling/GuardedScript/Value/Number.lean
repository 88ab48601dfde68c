import GuardedScript.Decimal.Double
import GuardedScript.Value

/-!
# Numbers

Integers and doubles seen as one type.  Where both meet, the integer is promoted to the nearest
double.
-/

set_option autoImplicit false

namespace GuardedScript

/-- An integer or a double. -/
inductive Number
  | int (n : Int64)
  | double (d : Float)

namespace Number

/-- The nearest double, ties to the even mantissa. -/
def toFloat : Number → Float
  | int n => Float.ofInt n.toInt
  | double d => d

/-- The integer, if the number is one by type. -/
def toInt64? : Number → Option Int64
  | int n => some n
  | double _ => none

/-- Whether the number is an integer by type. -/
def isIntegral : Number → Bool
  | int _ => true
  | double _ => false

/-- The number as a value. -/
def toValue : Number → Value
  | int n => .int n
  | double d => .double d

/-- The number that a value is. -/
def ofValue? : Value → Option Number
  | .int n => some (int n)
  | .double d => some (double d)
  | _ => none

/-- The text of a number. -/
def text : Number → String
  | int n => Decimal.int64Text n
  | double d => Decimal.doubleText d

end Number

end GuardedScript

import GuardedScript.Value.Number

/-!
# Arithmetic

Two integers are combined exactly, and the result is undefined if it does not fit into 64 bits.
Anything else is combined as doubles.  Comparisons are made on doubles.
-/

set_option autoImplicit false

namespace GuardedScript.Arithmetic

/-- The power of an integer.  Beyond sixty-four an exponent matters only by its parity: a base other
than zero and the two units has left the 64-bit integers by then. -/
def power? (base exponent : Int) : Option Int64 :=
  if 0 ≤ exponent && exponent ≤ 0xFFFFFFFF then
    let n := exponent.toNat
    Decimal.int64? (Int.pow base (if n < 64 then n else 64 + n % 2))
  else
    none

/-- The result of an arithmetic operator on two integers, if it has one. -/
def onInts? (operator : Operator) (a b : Int64) : Option Int64 :=
  match operator with
  | .add => Decimal.int64? (a.toInt + b.toInt)
  | .subtract => Decimal.int64? (a.toInt - b.toInt)
  | .multiply => Decimal.int64? (a.toInt * b.toInt)
  | .divide => if b = 0 then none else Decimal.int64? (a.toInt.tdiv b.toInt)
  | .modulo =>
    if b = 0 || (a.toInt == -0x8000000000000000 && b.toInt == -1) then none
    else Decimal.int64? (a.toInt.tmod b.toInt)
  | .power => power? a.toInt b.toInt
  | _ => none

/-- The result of an arithmetic operator on two doubles. -/
def onDoubles? (operator : Operator) (a b : Float) : Option Float :=
  match operator with
  | .add => some (a + b)
  | .subtract => some (a - b)
  | .multiply => some (a * b)
  | .divide => some (a / b)
  | .modulo => some (Binary64.remainder a b)
  | .power => some (a.pow b)
  | _ => none

/-- The result of a comparison of two doubles. -/
def compare? (operator : Operator) (a b : Float) : Option Bool :=
  match operator with
  | .less => some (decide (a < b))
  | .lessEqual => some (decide (a ≤ b))
  | .greater => some (decide (b < a))
  | .greaterEqual => some (decide (b ≤ a))
  | _ => none

/-- The result of an operator on two numbers; without one it is undefined. -/
def combine (operator : Operator) (a b : Number) : Value :=
  match compare? operator a.toFloat b.toFloat with
  | some holds => .boolean holds
  | none =>
    match a, b with
    | .int a, .int b => ((onInts? operator a b).map Value.int).getD .undefined
    | a, b => ((onDoubles? operator a.toFloat b.toFloat).map Value.double).getD .undefined

end GuardedScript.Arithmetic

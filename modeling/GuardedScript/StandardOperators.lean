import GuardedScript.Arithmetic
import GuardedScript.Registration
import GuardedScript.Value.Equality

/-!
# Standard operators

The operators that a host usually offers: arithmetic and comparison of numbers, equality of all
values, bitwise operators of integers and logical operators of truth values.
-/

set_option autoImplicit false

namespace GuardedScript

/-- The operators on numbers. -/
def numberOperators : List Operator :=
  [.power, .multiply, .divide, .modulo, .add, .subtract, .less, .lessEqual, .greater, .greaterEqual]

namespace Context

/-- Registers a host function as an operator of a type, whose name its left operand has to have. -/
def registerOperator {α ρ : Type} [Readable α] [Writable ρ] (context : Context)
    (typeName : String) (operator : Operator) (f : α → α → ρ) : Access (Outcome Unit) :=
  context.registerFunction false (MemberKey.text ⟨.operator, typeName, operator.symbol⟩)
    (.cons (.of α leftOperand) (.cons (.of α rightOperand) .nil)) f

/-- Registers the operators on numbers. -/
def registerNumberOperators (context : Context) : List Operator → Access Unit
  | [] => return ()
  | operator :: operators => do
    let _ ← context.registerOperator "Number" operator (Arithmetic.combine operator)
    context.registerNumberOperators operators

/-- Registers all standard operators. -/
def registerStandardOperators (context : Context) : Access Unit := do
  context.registerNumberOperators numberOperators
  let _ ← context.registerOperator "Object" .equal (fun (a b : Value) => a == b)
  let _ ← context.registerOperator "Object" .notEqual (fun (a b : Value) => a != b)
  let _ ← context.registerOperator "Int" .bitAnd (fun (a b : Int64) => a &&& b)
  let _ ← context.registerOperator "Int" .bitOr (fun (a b : Int64) => a ||| b)
  let _ ← context.registerOperator "Int" .bitXor (fun (a b : Int64) => a ^^^ b)
  let _ ← context.registerOperator "Boolean" .and (fun (a b : Bool) => a && b)
  let _ ← context.registerOperator "Boolean" .or (fun (a b : Bool) => a || b)
  return ()

end Context

end GuardedScript

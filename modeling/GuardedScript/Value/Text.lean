import GuardedScript.Decimal.Double
import GuardedScript.Value

/-!
# The text of values

Characters and strings stand between quotes and nothing in them is escaped.  Lazy values are written
the way a script would write them.
-/

set_option autoImplicit false

namespace GuardedScript

namespace Value

mutual

/-- The text of a value. -/
def text : Value → String
  | int n => Decimal.int64Text n
  | double d => Decimal.doubleText d
  | char c => "'" ++ String.singleton c ++ "'"
  | string s => "\"" ++ s ++ "\""
  | boolean b => if b then "true" else "false"
  | null => "null"
  | undefined => "undefined"
  | array _ items => "[" ++ String.intercalate ", " (itemTexts items) ++ "]"
  | reference name => name
  | property receiver name => text receiver ++ "." ++ name
  | call name arguments =>
    name ++ "(" ++ String.intercalate ", " (argumentTexts arguments) ++ ")"
  | memberCall receiver name arguments =>
    text receiver ++ "." ++ name ++ "(" ++ String.intercalate ", " (argumentTexts arguments) ++ ")"
  | expression start operations => "(" ++ text start ++ operationsText operations ++ ")"
termination_by structural value => value

/-- The texts of the items of an array. -/
def itemTexts : List Value → List String
  | [] => []
  | item :: items => text item :: itemTexts items
termination_by structural items => items

/-- The texts of the arguments of a call: the value, behind its name if it has one. -/
def argumentTexts : List (Argument Value) → List String
  | [] => []
  | ⟨none, value⟩ :: arguments => text value :: argumentTexts arguments
  | ⟨some name, value⟩ :: arguments => (name ++ ": " ++ text value) :: argumentTexts arguments
termination_by structural arguments => arguments

/-- The text of the operators and operands of a chain. -/
def operationsText : List (Operator × Value) → String
  | [] => ""
  | (operator, operand) :: operations =>
    " " ++ operator.symbol ++ " " ++ text operand ++ operationsText operations
termination_by structural operations => operations

end

end Value

/-- The text of an argument: the value, behind its name if it has one. -/
def Argument.text (argument : Argument Value) : String :=
  match argument.name with
  | some name => name ++ ": " ++ argument.value.text
  | none => argument.value.text

end GuardedScript

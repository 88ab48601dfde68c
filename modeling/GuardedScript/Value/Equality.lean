import GuardedScript.Value

/-!
# Equality of values

Two values are equal if they are built in the same way from equal parts.  Doubles are compared as
numbers, so not-a-number differs from itself and the two zeros are equal.
-/

set_option autoImplicit false

namespace GuardedScript.Value

mutual

/-- Whether two values are equal. -/
def equal : Value → Value → Bool
  | int a, int b => a == b
  | double a, double b => a == b
  | char a, char b => a == b
  | string a, string b => a == b
  | boolean a, boolean b => a == b
  | null, null => true
  | undefined, undefined => true
  | array dynamic items, array dynamic' items' => dynamic == dynamic' && equalItems items items'
  | reference name, reference name' => name == name'
  | property receiver name, property receiver' name' => equal receiver receiver' && name == name'
  | call name arguments, call name' arguments' =>
    name == name' && equalArguments arguments arguments'
  | memberCall receiver name arguments, memberCall receiver' name' arguments' =>
    equal receiver receiver' && name == name' && equalArguments arguments arguments'
  | expression start operations, expression start' operations' =>
    equal start start' && equalOperations operations operations'
  | _, _ => false
termination_by structural value => value

/-- Whether two lists of values are equal, item by item. -/
def equalItems : List Value → List Value → Bool
  | [], [] => true
  | item :: items, item' :: items' => equal item item' && equalItems items items'
  | _, _ => false
termination_by structural items => items

/-- Whether two lists of arguments have the same names and equal values. -/
def equalArguments : List (Argument Value) → List (Argument Value) → Bool
  | [], [] => true
  | ⟨name, value⟩ :: arguments, ⟨name', value'⟩ :: arguments' =>
    name == name' && equal value value' && equalArguments arguments arguments'
  | _, _ => false
termination_by structural arguments => arguments

/-- Whether two chains have the same operators and equal operands. -/
def equalOperations : List (Operator × Value) → List (Operator × Value) → Bool
  | [], [] => true
  | (operator, operand) :: operations, (operator', operand') :: operations' =>
    operator == operator' && equal operand operand' && equalOperations operations operations'
  | _, _ => false
termination_by structural operations => operations

end

instance : BEq Value := ⟨equal⟩

end GuardedScript.Value

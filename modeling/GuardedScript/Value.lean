import GuardedScript.Argument
import GuardedScript.Operator
import GuardedScript.ValueType

/-!
# Values

A value is fixed (a scalar, null, undefined, or an array of fixed values) or lazy: a variable
reference, a property read, a call or an operator chain, which has a result only in a context.

Arrays are classified by their elements.  An array that is marked dynamic always has to be
evaluated; any other array has to be evaluated if one of its elements is not fixed.
-/

set_option autoImplicit false

namespace GuardedScript

/-- The values that scripts compute with. -/
inductive Value
  | int (n : Int64)
  | double (d : Float)
  | char (c : Char)
  | string (s : String)
  | boolean (b : Bool)
  | null
  | undefined
  /-- An array; a dynamic one is evaluated anew each time, whatever its elements are. -/
  | array (dynamic : Bool) (items : List Value)
  /-- A variable read. -/
  | reference (name : String)
  /-- A property read. -/
  | property (receiver : Value) (name : String)
  /-- A call of a function by its name. -/
  | call (name : String) (arguments : List (Argument Value))
  /-- A call of a member function of a receiver. -/
  | memberCall (receiver : Value) (name : String) (arguments : List (Argument Value))
  /-- A chain of binary operators, exactly as written. -/
  | expression (start : Value) (operations : List (Operator × Value))

instance : Inhabited Value := ⟨.undefined⟩

/-- How a value comes to its result. -/
inductive EvaluationKind
  /-- The value is its own result. -/
  | fixed
  /-- Some part of the value may have to be evaluated. -/
  | unsure
  /-- The value has to be evaluated. -/
  | runtime
deriving DecidableEq, Repr

/-- The place of a kind in the order from fixed to runtime. -/
def EvaluationKind.rank : EvaluationKind → Nat
  | fixed => 0
  | unsure => 1
  | runtime => 2

/-- The classification of an array. -/
inductive Stability
  /-- All elements are fixed. -/
  | stable
  /-- Some element is not fixed. -/
  | unsure
  /-- The array is dynamic. -/
  | runtime
deriving DecidableEq, Repr

/-- The evaluation kind of an array with a given classification. -/
def Stability.evaluationKind : Stability → EvaluationKind
  | stable => .fixed
  | unsure => .unsure
  | runtime => .runtime

/-- The classification of an array by its mark and by whether all of its elements are fixed. -/
def Stability.classify (dynamic allFixed : Bool) : Stability :=
  if dynamic then .runtime else if allFixed then .stable else .unsure

namespace Value

/-- An array that is evaluated only if one of its elements has to be. -/
def ofList (items : List Value) : Value :=
  array false items

/-- Whether a value is null. -/
def isNull : Value → Bool
  | null => true
  | _ => false

/-- Whether a value is undefined. -/
def isUndefined : Value → Bool
  | undefined => true
  | _ => false

/-- The type of a value. -/
def type : Value → ValueType
  | int _ => .int
  | double _ => .double
  | char _ => .char
  | string _ => .string
  | boolean _ => .boolean
  | null => .null
  | undefined => .undefined
  | array _ _ => .array
  | reference _ | property _ _ | call _ _ | memberCall _ _ _ | expression _ _ => .runtime

mutual

/-- The evaluation kind of a value. -/
def evaluationKind : Value → EvaluationKind
  | int _ | double _ | char _ | string _ | boolean _ | null | undefined => .fixed
  | array dynamic items => (Stability.classify dynamic (allFixed items)).evaluationKind
  | reference _ | property _ _ | call _ _ | memberCall _ _ _ | expression _ _ => .runtime
termination_by structural value => value

/-- Whether all values of a list are fixed. -/
def allFixed : List Value → Bool
  | [] => true
  | item :: items => evaluationKind item == .fixed && allFixed items
termination_by structural items => items

end

/-- The classification of an array with the given mark and elements. -/
def stability (dynamic : Bool) (items : List Value) : Stability :=
  Stability.classify dynamic (allFixed items)

mutual

/-- Whether a value has to be evaluated; an array of unsure kind asks its elements. -/
def needsEvaluation : Value → Bool
  | int _ | double _ | char _ | string _ | boolean _ | null | undefined => false
  | array dynamic items =>
    match stability dynamic items with
    | .stable => false
    | .runtime => true
    | .unsure => anyNeedsEvaluation items
  | reference _ | property _ _ | call _ _ | memberCall _ _ _ | expression _ _ => true
termination_by structural value => value

/-- Whether some value of a list has to be evaluated. -/
def anyNeedsEvaluation : List Value → Bool
  | [] => false
  | item :: items => needsEvaluation item || anyNeedsEvaluation items
termination_by structural items => items

end

end Value

end GuardedScript

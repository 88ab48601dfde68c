/-!
# Failure codes

Every failure carries a code.  The thousands digit of its number is the category, and its text is
the number behind the letter `T`.
-/

set_option autoImplicit false

namespace GuardedScript

/-- The coarse grouping of failure codes. -/
inductive Category
  | access
  | resolution
  | mutation
  | resourceLimit
  | declaration
  | native
deriving DecidableEq, Repr

/-- The reasons for which an operation can fail. -/
inductive Code
  /-- A policy check refused the operation. -/
  | accessDenied
  /-- No reachable scope binds the variable. -/
  | undeclaredVariable
  /-- No reachable scope has an overload of the function. -/
  | undeclaredFunction
  /-- A policy rejected a variable write. -/
  | failedToSetVariable
  /-- A policy rejected a function registration. -/
  | failedToRegisterFunction
  /-- The context depth limit is reached. -/
  | maxDepthReached
  /-- The context depth limit is reached, and the limit is withheld. -/
  | maxDepthReachedHidden
  /-- The recursion limit of a function is reached. -/
  | maxRecursionReached
  /-- The recursion limit of a function is reached, and the limit is withheld. -/
  | maxRecursionReachedHidden
  /-- The budget of nested calls is used up. -/
  | callBudgetExhausted
  /-- The default of a parameter is not of the parameter's type. -/
  | invalidParameterDefault
  /-- A bound argument cannot be read as the host type that a native body asks for. -/
  | invalidArgument
  /-- A function was declared without a body. -/
  | missingBody
  /-- The failure was raised by a native body. -/
  | native
deriving DecidableEq, Repr

namespace Code

/-- All codes, in the order of their numbers. -/
def all : List Code :=
  [accessDenied, undeclaredVariable, undeclaredFunction, failedToSetVariable,
    failedToRegisterFunction, maxDepthReached, maxDepthReachedHidden, maxRecursionReached,
    maxRecursionReachedHidden, callBudgetExhausted, invalidParameterDefault, invalidArgument,
    missingBody, native]

/-- The number of a code. -/
def number : Code → Nat
  | accessDenied => 1001
  | undeclaredVariable => 2001
  | undeclaredFunction => 2002
  | failedToSetVariable => 3001
  | failedToRegisterFunction => 3002
  | maxDepthReached => 4001
  | maxDepthReachedHidden => 4002
  | maxRecursionReached => 4003
  | maxRecursionReachedHidden => 4004
  | callBudgetExhausted => 4005
  | invalidParameterDefault => 5001
  | invalidArgument => 5002
  | missingBody => 5003
  | native => 9001

/-- A code is written as `T` and its number. -/
def text (code : Code) : String :=
  "T" ++ toString code.number

/-- The category is the thousands digit of the number. -/
def category (code : Code) : Category :=
  match code.number / 1000 with
  | 1 => .access
  | 2 => .resolution
  | 3 => .mutation
  | 4 => .resourceLimit
  | 5 => .declaration
  | _ => .native

/-- Whether the message withholds the limit that was reached. -/
def isHidden : Code → Bool
  | maxDepthReachedHidden => true
  | maxRecursionReachedHidden => true
  | _ => false

/-- The list of all codes misses none. -/
theorem mem_all (code : Code) : code ∈ all := by
  cases code <;> decide

end Code

end GuardedScript

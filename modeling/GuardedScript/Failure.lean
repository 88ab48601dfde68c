import GuardedScript.Failure.Code

/-!
# Failures and their causes

A failure is a code and a message, possibly caused by an earlier failure.  The causes form a chain
that keeps a rejection traceable: a rejected write carries the decision that rejected it, which may
carry the attempt that preceded it.  `Failure.chain` is the view of a failure as a list of reports,
and each operation is described by what it does to that list.

Every failure of the library is made by one of the constructors at the end of this file, so all
wordings stand in one place.
-/

set_option autoImplicit false

namespace GuardedScript

/-- What one link of a cause chain says. -/
structure Report where
  code : Code
  message : String
deriving DecidableEq, Repr

/-- A coded failure, with or without a cause. -/
inductive Failure
  /-- A failure that nothing else led to. -/
  | bare (code : Code) (message : String)
  /-- A failure that another one led to. -/
  | caused (code : Code) (message : String) (cause : Failure)
deriving DecidableEq, Repr

instance : Inhabited Failure := ⟨.bare .native ""⟩

namespace Failure

/-- The outermost code. -/
def code : Failure → Code
  | bare code _ => code
  | caused code _ _ => code

/-- The outermost message. -/
def message : Failure → String
  | bare _ message => message
  | caused _ message _ => message

/-- The failure that directly led to this one. -/
def cause? : Failure → Option Failure
  | bare _ _ => none
  | caused _ _ cause => some cause

/-- A failure is written as its outermost code and message. -/
def text (failure : Failure) : String :=
  failure.code.text ++ ": " ++ failure.message

/-- The reports of a failure and of its causes, outermost first. -/
def chain : Failure → List Report
  | bare code message => [⟨code, message⟩]
  | caused code message cause => ⟨code, message⟩ :: cause.chain

/-- Makes `cause` the direct cause and forgets any earlier one. -/
def causedBy (failure cause : Failure) : Failure :=
  caused failure.code failure.message cause

/-- Adds `cause` behind the last cause of a failure. -/
def withRootCause : Failure → Failure → Failure
  | bare code message, root => caused code message root
  | caused code message cause, root => caused code message (cause.withRootCause root)

/-- The deepest failure of the chain. -/
def rootCause : Failure → Failure
  | bare code message => bare code message
  | caused _ _ cause => cause.rootCause

/-- Whether a code occurs anywhere in the chain. -/
def hasCode (failure : Failure) (code : Code) : Bool :=
  failure.chain.any (fun report => report.code == code)

/-- How many times one can step from a failure to its cause. -/
def causeCount : Failure → Nat
  | bare _ _ => 0
  | caused _ _ cause => cause.causeCount + 1

/-! ### What the operations do to the chain -/

/-- The chain of a failure is its own report followed by the chain of its cause. -/
theorem chain_eq_cons (failure : Failure) :
    failure.chain =
      ⟨failure.code, failure.message⟩ :: (failure.cause?.map chain).getD [] := by
  cases failure <;> rfl

/-- A failure with a new cause has the links of the cause behind its own first one. -/
@[simp]
theorem chain_causedBy (failure cause : Failure) :
    (failure.causedBy cause).chain = ⟨failure.code, failure.message⟩ :: cause.chain := rfl

/-- A failure with a new root cause has the links of that behind all of its own. -/
@[simp]
theorem chain_withRootCause (failure root : Failure) :
    (failure.withRootCause root).chain = failure.chain ++ root.chain := by
  induction failure with
  | bare code message => rfl
  | caused code message cause ih => simp [withRootCause, chain, ih]

/-! ### The wordings -/

/-- A policy refused `action`. -/
def accessDenied (action : String) : Failure :=
  bare .accessDenied ("access denied: " ++ action)

/-- No reachable scope binds the variable `name`. -/
def undeclaredVariable (name : String) : Failure :=
  bare .undeclaredVariable ("undeclared variable: " ++ name)

/-- No reachable scope has an overload of `name`. -/
def undeclaredFunction (name : String) : Failure :=
  bare .undeclaredFunction ("undeclared function: " ++ name)

/-- The variable `name` was not written. -/
def failedToSetVariable (name : String) : Failure :=
  bare .failedToSetVariable ("failed to set variable: " ++ name)

/-- No function was registered under `name`. -/
def failedToRegisterFunction (name : String) : Failure :=
  bare .failedToRegisterFunction ("failed to register function: " ++ name)

/-- A context of depth `depth` may not make a call, since the limit is `limit`. -/
def maxDepthReached (depth limit : Nat) : Failure :=
  bare .maxDepthReached
    ("maximum context depth reached: depth " ++ toString depth ++ " (limit: " ++ toString limit ++
      ")")

/-- The depth limit is reached; neither depth nor limit is told. -/
def maxDepthReachedHidden : Failure :=
  bare .maxDepthReachedHidden "maximum context depth reached"

/-- `active` calls of `function` are running, and the limit is `limit`. -/
def maxRecursionReached (function : String) (active limit : Nat) : Failure :=
  bare .maxRecursionReached
    ("maximum recursion reached in " ++ function ++ ": " ++ toString active ++
      " active calls (limit: " ++ toString limit ++ ")")

/-- The recursion limit of `function` is reached; neither count nor limit is told. -/
def maxRecursionReachedHidden (function : String) : Failure :=
  bare .maxRecursionReachedHidden ("maximum recursion reached in " ++ function)

/-- No nested call is left for calling `function`. -/
def callBudgetExhausted (function : String) : Failure :=
  bare .callBudgetExhausted ("call budget exhausted before calling " ++ function)

/-- The default of a parameter has type `got` where `expected` is declared. -/
def invalidParameterDefault (parameter expected got : String) : Failure :=
  bare .invalidParameterDefault
    ("default for parameter " ++ parameter ++ " must be " ++ expected ++ ", got " ++ got)

/-- The argument of a parameter cannot be read as the type `expected`. -/
def invalidArgument (parameter expected : String) : Failure :=
  bare .invalidArgument ("argument " ++ parameter ++ " cannot be read as " ++ expected)

/-- `function` was declared without a body. -/
def missingBody (function : String) : Failure :=
  bare .missingBody ("function " ++ function ++ " has no body")

/-- A native body failed with a message of its own. -/
def native (message : String) : Failure :=
  bare .native message

end Failure

end GuardedScript

import GuardedScript.Context.Functions

/-!
# Tasks

Evaluating a value, running a statement and running the body of a function refer to one another.
Each is a task, and the parts of the evaluator take a function that performs the tasks they lead to.
-/

set_option autoImplicit false

namespace GuardedScript

/-- What there is to do in a context. -/
inductive Task
  /-- Evaluate a value. -/
  | evaluate (value : Value)
  /-- Run a statement. -/
  | act (action : Action)
  /-- Run the body of a function in the context of its call. -/
  | run (function : Function) (bindings : Bindings)

/-- A way to perform tasks in contexts. -/
abbrev Evaluator := Context → Task → Run (Outcome Value)

/-- The result of a value: the value itself, unless it has to be evaluated. -/
def resolve (perform : Evaluator) (context : Context) (value : Value) : Run (Outcome Value) :=
  if value.needsEvaluation then
    perform context (.evaluate value)
  else
    return .success value

/-- The value of an outcome, where nothing counts as undefined. -/
def Outcome.settle : Outcome Value → Except Failure Value
  | success value => .ok value
  | empty => .ok .undefined
  | failure reason => .error reason

/-- Resolves the values in a list from left to right, up to the first failure. -/
def resolveEach {α β : Type} (perform : Evaluator) (context : Context) (value : α → Value)
    (rebuild : α → Value → β) : List α → Run (Except Failure (List β))
  | [] => return .ok []
  | part :: parts => do
    match (← resolve perform context (value part)).settle with
    | .error reason => return .error reason
    | .ok resolved =>
      match ← resolveEach perform context value rebuild parts with
      | .error reason => return .error reason
      | .ok rest => return .ok (rebuild part resolved :: rest)

end GuardedScript

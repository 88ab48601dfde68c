import GuardedScript.Evaluation.Step

/-!
# The evaluator

Tasks are performed with a bound on how deeply they may nest.  A run that needs more has no result,
which is not an outcome of the program: with a larger bound it may have one.  Hosts reach the
evaluator through requests.
-/

set_option autoImplicit false

namespace GuardedScript

/-- Performs a task, nesting at most so many tasks in one another. -/
def perform : Nat → Evaluator
  | 0 => fun _ _ => failure
  | fuel + 1 => step (perform fuel)

/-- What a host asks of a context. -/
inductive Request
  /-- Evaluate a value. -/
  | evaluate (value : Value)
  /-- Evaluate a value if it has to be. -/
  | resolve (value : Value)
  /-- Run a statement. -/
  | act (action : Action)
  /-- Run a block in a scope of its own. -/
  | block (block : Block)
  /-- Call a function by its name, with the arguments as they are. -/
  | invoke (name : String) (arguments : List (Argument Value))
  /-- Call a member function of a receiver. -/
  | member (receiver : Value) (name : String) (arguments : List (Argument Value))
  /-- Read a property of a receiver. -/
  | property (receiver : Value) (name : String)
  /-- Apply the operator with a symbol. -/
  | operator (left : Value) (symbol : String) (right : Value)
  /-- Convert a value by a registered conversion. -/
  | cast (value : Value) (target : ValueType)
  /-- Convert a value by a built-in conversion or a registered one. -/
  | convert (value : Value) (target : ValueType)

/-- Serves a request in a context, given a way to perform tasks. -/
def Request.serve (perform : Evaluator) (context : Context) : Request → Run (Outcome Value)
  | .evaluate value => perform context (.evaluate value)
  | .resolve value => GuardedScript.resolve perform context value
  | .act action => perform context (.act action)
  | .block body => runBlock perform context body
  | .invoke name arguments => GuardedScript.invoke perform context name arguments
  | .member receiver name arguments => invokeMemberFunction perform context receiver name arguments
  | .property receiver name => readProperty perform context receiver name
  | .operator left symbol right => applyOperator perform context left symbol right
  | .cast value target => castTo perform context value target
  | .convert value target => GuardedScript.convert perform context value target

end GuardedScript

import GuardedScript.Bindings
import GuardedScript.Parameter

/-!
# Functions and statements

A function is a signature and a body.  The body of a script function is a block of statements.
The body of a native function is a routine: it makes requests of its own call context, one after
the other, each next step depending on the answer, and ends with an outcome.  A routine is a
well-founded tree, so it makes finitely many requests in every run.

Functions are told apart by an identity, which is what recursion limits count by.
-/

set_option autoImplicit false

namespace GuardedScript

/-- What a native body can see of the context that it runs in. -/
structure Snapshot where
  /-- The name of the running function. -/
  function : String
  /-- The number of contexts around this one. -/
  depth : Nat
  /-- The number of running calls of the function, this one included. -/
  active : Nat
  /-- The number of contexts from this one to the outermost one. -/
  lineage : Nat

mutual

/-- A declared function. -/
structure Function where
  /-- The identity that tells functions with the same signature apart. -/
  id : Nat
  name : String
  parameters : List Parameter
  /-- Whether a call may pass more arguments than there are parameters for. -/
  variadic : Bool
  body : Body

/-- What a function does. -/
inductive Body
  /-- A routine that depends on the bound arguments. -/
  | native (routine : Bindings → Routine)
  /-- Statements that see the bound arguments as local variables. -/
  | script (block : Block)

/-- Statements that share one scope. -/
structure Block where
  /-- The label of the scope. -/
  marker : String
  actions : List Action

/-- A statement. -/
inductive Action
  /-- Evaluates a value and stores it in a variable. -/
  | assign (key : String) (global : Bool) (value : Value)
  /-- Registers a function under a name. -/
  | declare (name : String) (function : Function) (global : Bool)
  /-- Evaluates a value; the last one is the result of the block. -/
  | evaluate (value : Value)
  /-- Runs a block in a scope of its own. -/
  | block (block : Block)

/-- The requests that a native body makes of its call context. -/
inductive Routine
  /-- Ends with an outcome. -/
  | done (outcome : Outcome Value)
  /-- Leaves a line for the host and goes on. -/
  | note (line : String) (next : Routine)
  /-- Looks at the call context. -/
  | inspect (next : Snapshot → Routine)
  /-- Evaluates a value. -/
  | resolve (value : Value) (next : Outcome Value → Routine)
  /-- Writes a variable. -/
  | set (key : String) (global : Bool) (value : Value) (next : Outcome Unit → Routine)
  /-- Registers a function. -/
  | register (name : String) (function : Function) (global : Bool) (next : Outcome Unit → Routine)
  /-- Calls a function by its name, with the arguments as they are. -/
  | invoke (name : String) (arguments : List (Argument Value)) (next : Outcome Value → Routine)
  /-- Converts a value to a type. -/
  | convert (value : Value) (target : ValueType) (next : Outcome Value → Routine)

end

/-- The name of the variable in which a script function finds the arguments left over. -/
def restVariable : String := "rest"

/-- The label of a scope that is given none. -/
def defaultMarker : String := "block"

namespace Function

/-- Declares a function, which has to have a body. -/
def build (id : Nat) (name : String) (parameters : List Parameter) (variadic : Bool)
    (body : Option Body) : Except Failure Function :=
  match body with
  | some body => .ok ⟨id, name, parameters, variadic, body⟩
  | none => .error (.missingBody name)

/-- The text of a function: its name, and its parameters between parentheses. -/
def signature (function : Function) : String :=
  function.name ++ "(" ++
    String.intercalate ", "
      (function.parameters.map Parameter.text ++ if function.variadic then ["..."] else []) ++ ")"

end Function

namespace Body

/-- Whether the body is native. -/
def isNative : Body → Bool
  | native _ => true
  | script _ => false

end Body

namespace Block

/-- The text of a block: its label and the number of its statements. -/
def text (block : Block) : String :=
  block.marker ++ " \x7b " ++ toString block.actions.length ++ " actions \x7d"

end Block

namespace Action

/-- Whether the statement is an evaluation, whose value counts as the result of its block. -/
def isEvaluate : Action → Bool
  | evaluate _ => true
  | _ => false

end Action

end GuardedScript

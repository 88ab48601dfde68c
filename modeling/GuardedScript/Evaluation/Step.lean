import GuardedScript.Evaluation.Member
import GuardedScript.Reduction

/-!
# One step of each task

What evaluating a value, running a statement and running a body come to, given a way to perform the
tasks they lead to.
-/

set_option autoImplicit false

namespace GuardedScript

/-- Applies an operator in a chain, where a failure and a missing operator both give undefined. -/
def applyInChain (perform : Evaluator) (context : Context) (left : Value) (operator : Operator)
    (right : Value) : Run Value := do
  match ← applyOperator perform context left operator.symbol right with
  | .success value => return value
  | _ => return .undefined

/-- Evaluates an operator chain: all operands from left to right, then the operators, which are
applied in a given way. -/
def evaluateChain (perform : Evaluator) (apply : Value → Operator → Value → Run Value)
    (context : Context) (start : Value) (operations : List (Operator × Value)) :
    Run (Outcome Value) := do
  match (← resolve perform context start).settle with
  | .error reason => return .failure reason
  | .ok start =>
    match ← resolveEach perform context Prod.snd (fun part value => (part.1, value)) operations with
    | .error reason => return .failure reason
    | .ok operations =>
      let (result, _) ← Reduction.reduce apply start operations
      return .success result

/-- Evaluates a call: the arguments from left to right, then the receiver if there is one. -/
def evaluateCall (perform : Evaluator) (context : Context) (receiver : Option Value)
    (name : String) (arguments : List (Argument Value)) : Run (Outcome Value) := do
  match ← resolveEach perform context Argument.value Argument.withValue arguments with
  | .error reason => return .failure reason
  | .ok arguments =>
    match receiver with
    | none =>
      let outcome ← invoke perform context name arguments
      return outcome.orElse (.failure (.undeclaredFunction name))
    | some receiver =>
      match (← resolve perform context receiver).settle with
      | .error reason => return .failure reason
      | .ok receiver =>
        let outcome ← invokeMemberFunction perform context receiver name arguments
        return outcome.orElse (.failure (.undeclaredFunction name))

/-- Evaluates a property read. -/
def evaluateProperty (perform : Evaluator) (context : Context) (receiver : Value) (name : String) :
    Run (Outcome Value) := do
  match (← resolve perform context receiver).settle with
  | .error reason => return .failure reason
  | .ok receiver =>
    let outcome ← readProperty perform context receiver name
    return outcome.orElse
      (.failure (.undeclaredFunction (receiver.type.name ++ "." ++ name)))

/-- Evaluates an array, item by item. -/
def evaluateArray (perform : Evaluator) (context : Context) (items : List Value) :
    Run (Outcome Value) := do
  match ← resolveEach perform context id (fun _ value => value) items with
  | .error reason => return .failure reason
  | .ok items => return .success (.ofList items)

/-- Evaluates a value. -/
def evaluateStep (perform : Evaluator) (context : Context) : Value → Run (Outcome Value)
  | .array _ items => evaluateArray perform context items
  | .reference name => context.require name
  | .property receiver name => evaluateProperty perform context receiver name
  | .call name arguments => evaluateCall perform context none name arguments
  | .memberCall receiver name arguments =>
    evaluateCall perform context (some receiver) name arguments
  | .expression start operations =>
    evaluateChain perform (applyInChain perform context) context start operations
  | fixed => return .success fixed

/-- Runs statements in order, up to the first failure.  The result is the value of the last
evaluation. -/
def runActions (perform : Evaluator) (context : Context) :
    List Action → Value → Run (Outcome Value)
  | [], result => return .success result
  | action :: actions, result => do
    match ← perform context (.act action) with
    | .success value =>
      runActions perform context actions (if action.isEvaluate then value else result)
    | .empty => runActions perform context actions result
    | .failure reason => return .failure reason

/-- Runs a block in a context that is already open. -/
def runBlockIn (perform : Evaluator) (context : Context) (block : Block) : Run (Outcome Value) :=
  runActions perform context block.actions .undefined

/-- Runs a block in a scope of its own. -/
def runBlock (perform : Evaluator) (context : Context) (block : Block) : Run (Outcome Value) := do
  let scope ← context.openScope block.marker
  runBlockIn perform scope block

/-- Runs a statement. -/
def actStep (perform : Evaluator) (context : Context) : Action → Run (Outcome Value)
  | .assign key global value => do
    match (← resolve perform context value).settle with
    | .error reason => return .failure reason
    | .ok value =>
      let outcome ← context.set key global value
      return outcome.map (fun _ => .undefined)
  | .declare name function global => do
    let outcome ← context.register name function global
    return outcome.map (fun _ => .undefined)
  | .evaluate value => do
    let outcome ← resolve perform context value
    return outcome.orSuccess .undefined
  | .block block => runBlock perform context block

/-- Serves the requests of a native body. -/
def runRoutine (perform : Evaluator) (context : Context) (function : Function) :
    Routine → Run (Outcome Value)
  | .done outcome => return outcome
  | .note line next => do
    record (.noted line)
    runRoutine perform context function next
  | .inspect next => runRoutine perform context function (next (context.snapshot function))
  | .resolve value next => do
    let outcome ← resolve perform context value
    runRoutine perform context function (next outcome)
  | .set key global value next => do
    let outcome ← context.set key global value
    runRoutine perform context function (next outcome)
  | .register name registered global next => do
    let outcome ← context.register name registered global
    runRoutine perform context function (next outcome)
  | .invoke name arguments next => do
    let outcome ← invoke perform context name arguments
    runRoutine perform context function (next outcome)
  | .convert value target next => do
    let outcome ← convert perform context value target
    runRoutine perform context function (next outcome)
termination_by structural routine => routine

/-- Binds the arguments of a script function as local variables: the named ones one after the other,
and then what is left over if the function is variadic. -/
def bindLocals (context : Context) (variadic : Bool) (named : List (String × Value))
    (rest : List Value) : Access (Outcome Unit) := do
  match ← context.setAll named with
  | .failure reason => return .failure reason
  | _ =>
    if variadic then
      context.set restVariable false (.ofList rest)
    else
      return .success ()

/-- Runs a script body in the context of its call. -/
def runScript (perform : Evaluator) (context : Context) (variadic : Bool)
    (named : List (String × Value)) (rest : List Value) (block : Block) : Run (Outcome Value) := do
  match ← bindLocals context variadic named rest with
  | .failure reason => return .failure reason
  | _ => runBlockIn perform context block

/-- Runs the body of a function in the context of its call. -/
def runBody (perform : Evaluator) (context : Context) (function : Function)
    (bindings : Bindings) : Run (Outcome Value) :=
  match function.body with
  | .native routine => runRoutine perform context function (routine bindings)
  | .script block =>
    runScript perform context function.variadic bindings.named.entries bindings.rest block

/-- Notes that the body of a function starts, and runs it. -/
def runStep (perform : Evaluator) (context : Context) (function : Function)
    (bindings : Bindings) : Run (Outcome Value) := do
  record (.began context function)
  runBody perform context function bindings

/-- One step of a task. -/
def step (perform : Evaluator) (context : Context) : Task → Run (Outcome Value)
  | .evaluate value => evaluateStep perform context value
  | .act action => actStep perform context action
  | .run function bindings => runStep perform context function bindings

end GuardedScript

import GuardedScript.Evaluation.Task
import GuardedScript.Function.Binding

/-!
# Calls

A call by name searches the contexts from the innermost one outward.  In each context the
overloads under the key of the name are tried in the order of their registration: the policy of
that context is asked, the arguments are bound, and the function is called on behalf of the
caller.  The first call that succeeds ends the search.  If none does, the failure of a call counts
more than a refusal, and the first of either kind counts most.

Wherever a function is found, its body runs in a new context below the caller, under the policy that
the caller's policy derives.
-/

set_option autoImplicit false

namespace GuardedScript

/-- The first failure of a call and the first refusal of a search. -/
structure Refusals where
  invoked : Option Failure := none
  denied : Option Failure := none

namespace Refusals

/-- Notes that a call failed. -/
def invoke (refusals : Refusals) (reason : Failure) : Refusals :=
  { refusals with invoked := refusals.invoked.or (some reason) }

/-- Notes that a policy refused. -/
def deny (refusals : Refusals) (reason : Failure) : Refusals :=
  { refusals with denied := refusals.denied.or (some reason) }

/-- The failure of a call, or else a refusal, or else nothing. -/
def outcome (refusals : Refusals) : Outcome Value :=
  match refusals.invoked.or refusals.denied with
  | some reason => .failure reason
  | none => .empty

end Refusals

/-- How a search stands after some overloads. -/
inductive Search
  /-- A call succeeded. -/
  | found (value : Value)
  /-- No call succeeded so far. -/
  | pending (refusals : Refusals)

/-- Runs the body of a function in a new context below a caller, under a given policy. -/
def enter (perform : Evaluator) (lookup : Option Lookup) (caller : Context) (function : Function)
    (policy : Policy) (bindings : Bindings) : Run (Outcome Value) := do
  let context ← caller.openCall function policy
  record (.entered lookup caller context)
  perform context (.run function bindings)

/-- A body runs in a new context below the caller, whose opening goes into the trace first. -/
theorem enter_apply (perform : Evaluator) (lookup : Option Lookup) (caller : Context)
    (function : Function) (policy : Policy) (bindings : Bindings) (state : State) :
    enter perform lookup caller function policy bindings state =
      let callee := .nested ⟨state.store.size, .call function, policy, caller.options⟩ caller
      perform callee (.run function bindings)
        (state.extend.log (.entered lookup caller callee)) := rfl

/-- Calls a function on behalf of a caller. -/
def invokeObject (perform : Evaluator) (lookup : Option Lookup) (caller : Context)
    (function : Function) (bindings : Bindings) : Run (Outcome Value) :=
  caller.guarded (.runFunction function) (fun denial => pure (.failure denial)) do
    match ← caller.consultDerivation function with
    | .failure reason => return .failure reason
    | derived =>
      enter perform lookup caller function (derived.success?.getD caller.policy) bindings

/-- Tries the overloads of one context in order, the first of which has a given position. -/
def tryOverloads (perform : Evaluator) (self scope : Context) (key : String)
    (arguments : List (Argument Value)) : List Function → Nat → Refusals → Run Search
  | [], _, refusals => return .pending refusals
  | function :: functions, position, refusals =>
    let next := tryOverloads perform self scope key arguments functions (position + 1)
    scope.guarded (.tryFunction key function)
      (fun denial => next (refusals.deny
        ((Failure.accessDenied ("try function '" ++ function.signature ++ "'")).causedBy denial)))
      (match function.bind? arguments with
        | none => next refusals
        | some bindings => do
          match ← invokeObject perform (some ⟨key, scope, position⟩) self function bindings with
          | .success value => return .found value
          | .empty => next refusals
          | .failure reason => next (refusals.invoke reason))

/-- Searches a context and those around it. -/
def search (perform : Evaluator) (self : Context) (key : String)
    (arguments : List (Argument Value)) (refusals : Refusals) (scope : Context) :
    Run (Outcome Value) := do
  let functions ← scope.overloads key
  match ← tryOverloads perform self scope key arguments functions 0 refusals with
  | .found value => return .success value
  | .pending refusals =>
    match scope with
    | .root _ => return refusals.outcome
    | .nested frame parent =>
      (Context.nested frame parent).guarded (.askParentForFunction key)
        (fun denial => pure (refusals.deny
          ((Failure.accessDenied ("ask parent for function '" ++ key ++ "'")).causedBy
            denial)).outcome)
        (parent.guarded (.askForFunction key)
          (fun denial => pure (refusals.deny
            ((Failure.accessDenied ("ask for function '" ++ key ++ "'")).causedBy denial)).outcome)
          (search perform self key arguments refusals parent))
termination_by structural scope

/-- What is left of a search after the functions of a context were tried. -/
def searchBeyond (perform : Evaluator) (self : Context) (key : String)
    (arguments : List (Argument Value)) (refusals : Refusals) : Context → Run (Outcome Value)
  | .root _ => return refusals.outcome
  | .nested frame parent =>
    (Context.nested frame parent).guarded (.askParentForFunction key)
      (fun denial => pure (refusals.deny
        ((Failure.accessDenied ("ask parent for function '" ++ key ++ "'")).causedBy
          denial)).outcome)
      (parent.guarded (.askForFunction key)
        (fun denial => pure (refusals.deny
          ((Failure.accessDenied ("ask for function '" ++ key ++ "'")).causedBy denial)).outcome)
        (search perform self key arguments refusals parent))

/-- A search tries the functions of a context and goes on beyond it unless one has succeeded. -/
theorem search_eq (perform : Evaluator) (self : Context) (key : String)
    (arguments : List (Argument Value)) (refusals : Refusals) (scope : Context) :
    search perform self key arguments refusals scope = (do
      let functions ← scope.overloads key
      match ← tryOverloads perform self scope key arguments functions 0 refusals with
      | .found value => return .success value
      | .pending refusals => searchBeyond perform self key arguments refusals scope) := by
  unfold search
  refine bind_congr (fun functions => bind_congr (fun result => ?_))
  cases result with
  | found value => rfl
  | pending refusals => cases scope <;> rfl

/-- Calls a function by its name, searched from one context and called on behalf of another. -/
def invokeFrom (perform : Evaluator) (start self : Context) (name : String)
    (arguments : List (Argument Value)) : Run (Outcome Value) :=
  let key := Text.key name
  start.guarded (.askForFunction key)
    (fun denial => pure (.failure
      ((Failure.accessDenied ("ask for function '" ++ key ++ "'")).causedBy denial)))
    (search perform self key arguments {} start)

/-- Calls a function by its name. -/
def invoke (perform : Evaluator) (context : Context) (name : String)
    (arguments : List (Argument Value)) : Run (Outcome Value) :=
  invokeFrom perform context context name arguments

end GuardedScript

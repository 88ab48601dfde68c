import GuardedScript.Context.Variables

/-!
# Registered functions

A function is registered under the key of a name, behind the functions that are there already.  A
global registration turns to the parent first, if the policy lets it, and stays in the context
itself if that fails.
-/

set_option autoImplicit false

namespace GuardedScript.Context

/-- Registers a function in the context itself, unless the policy refuses.  The attempt is that of
the parent, if it was asked first. -/
def enlist (key : String) (function : Function) (global : Bool) (attempt : Option (Outcome Unit))
    (context : Context) : Access (Outcome Unit) :=
  context.guarded (.registerFunction key function global)
    (fun denial => pure
      (.failure ((Failure.failedToRegisterFunction key).causedBy (denial.after attempt))))
    do
      context.updateRegistry (fun registry => registry.addFunction key function)
      return .success ()

/-- Registers a function under a name, locally or globally. -/
def register (name : String) (function : Function) (global : Bool) :
    Context → Access (Outcome Unit)
  | .root frame => (root frame).enlist (Text.key name) function global none
  | .nested frame parent =>
    let key := Text.key name
    if global then do
      let attempt ← (nested frame parent).guarded (.askParentToRegister key function)
        (fun denial => pure (.failure
          ((Failure.accessDenied ("ask parent to register function '" ++ key ++ "'")).causedBy
            denial)))
        (parent.register key function true)
      match attempt with
      | .success () => return .success ()
      | attempt => (nested frame parent).enlist key function global (some attempt)
    else
      (nested frame parent).enlist key function global none
termination_by structural context => context

/-- The functions that the context itself has under a key, which is taken as it stands. -/
def overloads (key : String) (context : Context) : Access (List Function) := do
  return (← context.registry).overloads key

/-- The functions of a context are looked up in its registry, and nothing changes. -/
theorem overloads_apply (key : String) (context : Context) (state : State) :
    context.overloads key state = ((state.store.registry context.id).overloads key, state) := rfl

/-- Whether the context itself has a function of a name. -/
def hasLocalFunction (name : String) (context : Context) : Access Bool := do
  return (← context.registry).functions.contains (Text.key name)

end GuardedScript.Context

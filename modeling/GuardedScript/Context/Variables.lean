import GuardedScript.State

/-!
# Variables

A variable is read from the innermost context that binds it; each context on the way is asked
whether it may be read there, and whether the parent may be asked.  A local write binds the
variable in the context itself.  A global write goes to the outermost context that does not refuse
it, and removes the bindings inside of that context, which would hide the new value.
-/

set_option autoImplicit false

namespace GuardedScript

/-- A denial together with the failed attempt that came before it. -/
def Failure.after (denial : Failure) : Option (Outcome Unit) → Failure
  | some (.failure previous) => denial.withRootCause previous
  | _ => denial

namespace Context

/-- Reads a variable. -/
def get (key : String) (context : Context) : Access (Outcome Value) :=
  context.guarded (.getVariable key)
    (fun denial => pure
      (.failure ((Failure.accessDenied ("get variable '" ++ key ++ "'")).causedBy denial)))
    do
      match (← context.registry).locals.get? key with
      | some value => return .success value
      | none =>
        match context with
        | .root _ => return .empty
        | .nested frame parent =>
          (nested frame parent).guarded (.askParentForVariable key)
            (fun denial => pure (.failure
              ((Failure.accessDenied ("ask parent for variable '" ++ key ++ "'")).causedBy denial)))
            (parent.get key)
termination_by structural context

/-- What is left of a read after the context itself was found not to bind the variable. -/
def getBeyond (key : String) : Context → Access (Outcome Value)
  | .root _ => return .empty
  | .nested frame parent =>
    (nested frame parent).guarded (.askParentForVariable key)
      (fun denial => pure (.failure
        ((Failure.accessDenied ("ask parent for variable '" ++ key ++ "'")).causedBy denial)))
      (parent.get key)

/-- A read looks into the context itself and goes on beyond it unless the variable is bound
there. -/
theorem get_eq (key : String) (context : Context) :
    context.get key = context.guarded (.getVariable key)
      (fun denial => pure
        (.failure ((Failure.accessDenied ("get variable '" ++ key ++ "'")).causedBy denial)))
      (do
        match (← context.registry).locals.get? key with
        | some value => return .success value
        | none => context.getBeyond key) := by
  unfold get
  refine congrArg (context.guarded _ _) (bind_congr (fun registry => ?_))
  cases registry.locals.get? key with
  | some value => rfl
  | none => cases context <;> rfl

/-- Reads a variable that has to be there. -/
def require (key : String) (context : Context) : Access (Outcome Value) := do
  return (← context.get key).orElse (.failure (.undeclaredVariable key))

/-- Whether a variable can be read. -/
def contains (key : String) (context : Context) : Access Bool := do
  return (← context.get key).isSuccess

/-- Whether the context itself binds a variable. -/
def containsLocal (key : String) (context : Context) : Access Bool := do
  return (← context.registry).locals.contains key

/-- Binds a variable in the context itself, unless the policy refuses.  The attempt is that of the
parent, if it was asked first. -/
def write (key : String) (global : Bool) (value : Value) (attempt : Option (Outcome Unit))
    (context : Context) : Access (Outcome Unit) :=
  context.guarded (.setVariable key global value attempt)
    (fun denial => pure
      (.failure ((Failure.failedToSetVariable key).causedBy (denial.after attempt))))
    do
      context.updateRegistry (fun registry => registry.setVariable key value)
      return .success ()

/-- Writes a variable, locally or globally. -/
def set (key : String) (global : Bool) (value : Value) : Context → Access (Outcome Unit)
  | .root frame => (root frame).write key global value none
  | .nested frame parent =>
    if global then do
      match ← parent.set key true value with
      | .success () =>
        (nested frame parent).updateRegistry (fun registry => registry.removeVariable key)
        return .success ()
      | attempt => (nested frame parent).write key global value (some attempt)
    else
      (nested frame parent).write key global value none
termination_by structural context => context

/-- Writes variables locally, one after the other, up to the first refusal. -/
def setAll (context : Context) : List (String × Value) → Access (Outcome Unit)
  | [] => return .success ()
  | (key, value) :: rest => do
    match ← context.set key false value with
    | .failure reason => return .failure reason
    | _ => context.setAll rest

end Context

end GuardedScript

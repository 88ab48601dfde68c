import GuardedScript.Options
import GuardedScript.Store

/-!
# What policies are asked

Before a context reads or writes a variable, registers or looks for a function, runs a body or turns
to its parent, its policy is asked.  A policy sees where the question comes from, and what the
asking context and those around it hold at that moment.
-/

set_option autoImplicit false

namespace GuardedScript

/-- What a context is for. -/
inductive Kind
  /-- An outermost context, or one that a host put below another. -/
  | global
  /-- The scope of a block, with its label. -/
  | scope (marker : String)
  /-- The context of one call of a function. -/
  | call (function : Function)

namespace Kind

/-- The function that a call context runs. -/
def invoked? : Kind → Option Function
  | call function => some function
  | _ => none

/-- Whether a context of this kind is a call of a given function. -/
def isCallOf (function : Function) : Kind → Bool
  | call running => running.id == function.id
  | _ => false

end Kind

/-- Where a question comes from.  What belongs to the asking context and to those around it is
listed innermost first, and only for a policy that looks at it. -/
structure Site where
  /-- What the contexts are for. -/
  lineage : Thunk (List Kind)
  options : Options
  /-- The variables and functions of the contexts, as they are when the question is asked. -/
  registries : Thunk (List Registry)

namespace Site

/-- The number of contexts around the asking one. -/
def depth (site : Site) : Nat :=
  site.lineage.get.length - 1

/-- The number of running calls of a function. -/
def active (site : Site) (function : Function) : Nat :=
  site.lineage.get.countP (Kind.isCallOf function)

end Site

/-- The questions that a policy is asked. -/
inductive Check
  /-- May the variable be read here? -/
  | getVariable (key : String)
  /-- May the variable be written here?  The attempt is that of the parent, if it was asked. -/
  | setVariable (key : String) (global : Bool) (value : Value) (attempt : Option (Outcome Unit))
  /-- May the parent be asked for the variable? -/
  | askParentForVariable (key : String)
  /-- May the function be registered here? -/
  | registerFunction (key : String) (function : Function) (global : Bool)
  /-- May the parent be asked to register the function? -/
  | askParentToRegister (key : String) (function : Function)
  /-- May functions be looked for here? -/
  | askForFunction (key : String)
  /-- May the parent be asked for functions? -/
  | askParentForFunction (key : String)
  /-- May the overload be tried? -/
  | tryFunction (key : String) (function : Function)
  /-- May the function be run on behalf of this context? -/
  | runFunction (function : Function)
  /-- May a member function be looked for? -/
  | askForMember (receiver : ValueType) (name : String)
  /-- May a property be looked for? -/
  | askForProperty (receiver : ValueType) (name : String)
  /-- May an operator be looked for? -/
  | askForOperator (left : ValueType) (symbol : String)
  /-- May a conversion be looked for? -/
  | askForCast (source target : ValueType)

/-- The answer of a policy: granted, no opinion, or denied for a reason.  Only a denial stops the
operation. -/
abbrev Decision := Outcome Unit

end GuardedScript

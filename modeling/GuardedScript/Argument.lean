/-!
# Arguments

An argument at a call is a value, with or without the name of the parameter it is meant for.
-/

set_option autoImplicit false

namespace GuardedScript

/-- A named or positional argument. -/
structure Argument (α : Type) where
  name : Option String
  value : α
deriving DecidableEq, Repr

namespace Argument

variable {α β : Type}

/-- An argument without a name. -/
def positional (value : α) : Argument α :=
  ⟨none, value⟩

/-- An argument with a name; the empty name is a name. -/
def named (name : String) (value : α) : Argument α :=
  ⟨some name, value⟩

/-- The same argument with another value. -/
def withValue (argument : Argument α) (value : β) : Argument β :=
  ⟨argument.name, value⟩

end Argument

end GuardedScript

/-!
# Options and limits

What a host can tune: whether the two sentinels convert to neutral values, and how deep calls may
nest.
-/

set_option autoImplicit false

namespace GuardedScript

/-- The options of a context, inherited by the contexts below it. -/
structure Options where
  /-- Whether null converts to the neutral value of a type. -/
  nullCoercible : Bool := false
  /-- Whether undefined converts to the neutral value of a type. -/
  undefinedCoercible : Bool := false
deriving DecidableEq, Repr

/-- How deep calls may nest; without a number there is no limit. -/
structure Limits where
  /-- The least depth of a context that may make no call. -/
  maxDepth : Option Nat
  /-- The number of running calls of one function that may not be exceeded. -/
  maxRecursion : Option Nat
  /-- Whether refusals withhold the limit. -/
  hidden : Bool := false
deriving DecidableEq, Repr

/-- No limits. -/
def Limits.unlimited : Limits :=
  ⟨none, none, false⟩

/-- The limits of a host that asks for none in particular. -/
def Limits.standard : Limits :=
  ⟨some 256, some 64, false⟩

end GuardedScript

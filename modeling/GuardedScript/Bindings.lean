import GuardedScript.Table
import GuardedScript.Value

/-!
# Bindings

What a call passes to a function: a value for some of the parameter names, and the values that no
parameter took.
-/

set_option autoImplicit false

namespace GuardedScript

/-- Bound arguments by name, and the arguments that are left over, in call order. -/
@[ext]
structure Bindings where
  named : Table Value := ∅
  rest : List Value := []

namespace Bindings

/-- No arguments. -/
def empty : Bindings := {}

instance : Inhabited Bindings := ⟨empty⟩

/-- The bindings of a list of names and values, later ones in place of earlier ones. -/
def ofList (named : List (String × Value)) : Bindings :=
  ⟨Table.ofList named, []⟩

/-- The value bound to a name. -/
def get? (bindings : Bindings) (name : String) : Option Value :=
  bindings.named.get? name

/-- Whether a name is bound. -/
def contains (bindings : Bindings) (name : String) : Bool :=
  bindings.named.contains name

/-- Binds a name. -/
def insert (bindings : Bindings) (name : String) (value : Value) : Bindings :=
  { bindings with named := bindings.named.insert name value }

/-- Adds a value that no parameter took. -/
def pushRest (bindings : Bindings) (value : Value) : Bindings :=
  { bindings with rest := bindings.rest ++ [value] }

/-- The number of bound names. -/
def size (bindings : Bindings) : Nat :=
  bindings.named.size

/-- Whether nothing is bound and nothing is left over. -/
def isEmpty (bindings : Bindings) : Bool :=
  bindings.size == 0 && bindings.rest.isEmpty

end Bindings

end GuardedScript

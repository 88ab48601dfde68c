/-!
# Types of values

A type is described by its hierarchy, the names from the most specific one to `Object`.  A value is
of every type in the hierarchy of its own type.
-/

set_option autoImplicit false

namespace GuardedScript

/-- The names of a type and of the types above it, most specific first. -/
structure ValueType where
  hierarchy : List String
deriving DecidableEq, Repr

namespace ValueType

/-- The name at the top of every hierarchy. -/
def objectName : String := "Object"

/-- The hierarchy with the given names, to which `Object` is added unless it is the last of them. -/
def ofNames (names : List String) : ValueType :=
  ⟨if names.getLast? = some objectName then names else names ++ [objectName]⟩

/-- The type of everything. -/
def object : ValueType := ofNames ["Object"]

/-- The type of integers and doubles. -/
def number : ValueType := ofNames ["Number"]

/-- The type of integers. -/
def int : ValueType := ofNames ["Int", "Number"]

/-- The type of doubles. -/
def double : ValueType := ofNames ["Double", "Number"]

/-- The type of characters. -/
def char : ValueType := ofNames ["Char"]

/-- The type of strings. -/
def string : ValueType := ofNames ["String"]

/-- The type of truth values. -/
def boolean : ValueType := ofNames ["Boolean"]

/-- The type of arrays. -/
def array : ValueType := ofNames ["Array"]

/-- The type of the null value. -/
def null : ValueType := ofNames ["Null"]

/-- The type of the undefined value. -/
def undefined : ValueType := ofNames ["Undefined"]

/-- The type of values that are not evaluated yet. -/
def runtime : ValueType := ofNames ["Runtime"]

/-- The types that the library itself knows. -/
def builtins : List ValueType :=
  [object, number, int, double, char, string, boolean, array, null, undefined, runtime]

/-- The built-in type of a name, or else a type of that name directly below `Object`. -/
def named (name : String) : ValueType :=
  match builtins.find? (fun type => type.hierarchy.head? == some name) with
  | some type => type
  | none => ofNames [name]

/-- A type directly below this one. -/
def derive (type : ValueType) (name : String) : ValueType :=
  ⟨name :: type.hierarchy⟩

/-- The most specific name. -/
def name (type : ValueType) : String :=
  type.hierarchy.head?.getD objectName

/-- Whether a name occurs in the hierarchy. -/
def is (type : ValueType) (name : String) : Bool :=
  type.hierarchy.contains name

/-- Whether the name of another type occurs in the hierarchy. -/
def isSubtypeOf (type other : ValueType) : Bool :=
  type.is other.name

end ValueType

end GuardedScript

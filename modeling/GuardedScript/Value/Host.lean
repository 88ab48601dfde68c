import GuardedScript.Value.Number

/-!
# Values and host types

Native functions are written over types of the host language.  A type that can be read from values
says which type of values it asks for; a type that can be written has a value for each of its own.
-/

set_option autoImplicit false

namespace GuardedScript

/-- A host type whose elements are read from values of one type. -/
class Readable (α : Type) where
  /-- The type of the values that are read. -/
  type : ValueType
  /-- The reading of a value. -/
  read? : Value → Option α

/-- A host type whose elements are written as values. -/
class Writable (α : Type) where
  /-- The value of an element. -/
  write : α → Value

/-- The elements of an array, with its mark. -/
structure Sequence where
  dynamic : Bool
  items : List Value

/-- The sequence of a list of values. -/
def Sequence.ofList (items : List Value) : Sequence :=
  ⟨false, items⟩

instance : Readable Int64 where
  type := .int
  read?
    | .int n => some n
    | _ => none

instance : Readable Float where
  type := .number
  read? value := (Number.ofValue? value).map Number.toFloat

instance : Readable Number where
  type := .number
  read? := Number.ofValue?

instance : Readable Bool where
  type := .boolean
  read?
    | .boolean b => some b
    | _ => none

instance : Readable Char where
  type := .char
  read?
    | .char c => some c
    | _ => none

instance : Readable String where
  type := .string
  read?
    | .string s => some s
    | _ => none

instance : Readable Sequence where
  type := .array
  read?
    | .array dynamic items => some ⟨dynamic, items⟩
    | _ => none

instance : Readable Value where
  type := .object
  read? := some

instance : Writable Value := ⟨id⟩

instance : Writable Unit := ⟨fun _ => .undefined⟩

instance : Writable Int64 := ⟨.int⟩

instance : Writable Float := ⟨.double⟩

instance : Writable Number := ⟨Number.toValue⟩

instance : Writable Bool := ⟨.boolean⟩

instance : Writable Char := ⟨.char⟩

instance : Writable String := ⟨.string⟩

instance : Writable Sequence := ⟨fun sequence => .array sequence.dynamic sequence.items⟩

instance : Writable (List Value) := ⟨Value.ofList⟩

/-- A missing element is written as null. -/
instance {α : Type} [Writable α] : Writable (Option α) :=
  ⟨fun element => (element.map Writable.write).getD .null⟩

end GuardedScript

/-!
# Members

Member functions, properties, operators and conversions of a type are ordinary functions, registered
under names that are made of the kind of the member, the type and the member's own name.
-/

set_option autoImplicit false

namespace GuardedScript

/-- The kinds of members. -/
inductive MemberKind
  | function
  | property
  | operator
  | cast
deriving DecidableEq, Repr

/-- The word that the names of members of a kind start with. -/
def MemberKind.stem : MemberKind → String
  | function => "MemberFunction"
  | property => "MemberProperty"
  | operator => "MemberOperator"
  | cast => "MemberCast"

/-- A member of a type. -/
structure MemberKey where
  kind : MemberKind
  typeName : String
  member : String
deriving DecidableEq, Repr

/-- The name that the functions of a member are registered under. -/
def MemberKey.text (key : MemberKey) : String :=
  key.kind.stem ++ "_" ++ key.typeName ++ "_" ++ key.member

/-- The name of the argument that passes the receiver. -/
def selfArgument : String := "self"

/-- The name of the argument that passes the left operand. -/
def leftOperand : String := "a"

/-- The name of the argument that passes the right operand. -/
def rightOperand : String := "b"

end GuardedScript

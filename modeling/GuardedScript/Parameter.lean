import GuardedScript.Outcome
import GuardedScript.Value.Text

/-!
# Parameters

A parameter has a name, a type and a rule for calls that pass nothing for it.  A default is of the
type of its parameter, by construction.
-/

set_option autoImplicit false

namespace GuardedScript

/-- The type of a parameter. -/
inductive ParameterType
  /-- A type that is known where the function is declared. -/
  | declared (type : ValueType)
  /-- A type that is only named, and compared by its name at the call. -/
  | lateBound (name : String)
deriving DecidableEq, Repr

namespace ParameterType

/-- The name of the type. -/
def typeName : ParameterType → String
  | declared type => type.name
  | lateBound name => name

/-- Whether a value is of the type. -/
def accepts (type : ParameterType) (value : Value) : Bool :=
  value.type.is type.typeName

end ParameterType

/-- What happens if a call passes nothing for a parameter. -/
inductive Missing
  /-- The function does not apply. -/
  | mandatory
  /-- The parameter stays unbound. -/
  | optional
  /-- The parameter is bound to a default. -/
  | substitute (default : Value)

/-- A default is of the given type. -/
def Missing.AdmittedBy (type : ParameterType) : Missing → Prop
  | substitute default => type.accepts default = true
  | _ => True

/-- A declared parameter. -/
structure Parameter where
  name : String
  type : ParameterType
  missing : Missing
  admitted : missing.AdmittedBy type

namespace Parameter

/-- A parameter that every call has to pass. -/
def mandatory (name : String) (type : ParameterType) : Parameter :=
  ⟨name, type, .mandatory, trivial⟩

/-- A parameter that a call may leave unbound. -/
def optional (name : String) (type : ParameterType) : Parameter :=
  ⟨name, type, .optional, trivial⟩

/-- A parameter with a default, which has to be of the type. -/
def substitute (name : String) (type : ParameterType) (default : Value) :
    Except Failure Parameter :=
  if h : type.accepts default = true then
    .ok ⟨name, type, .substitute default, h⟩
  else
    .error (.invalidParameterDefault name type.typeName default.type.name)

/-- Whether a value is of the type of the parameter. -/
def accepts (parameter : Parameter) (value : Value) : Bool :=
  parameter.type.accepts value

/-- Whether an argument is unnamed or has the parameter's name, and its value is accepted. -/
def fits (parameter : Parameter) (argument : Argument Value) : Bool :=
  (match argument.name with
    | some name => name == parameter.name
    | none => true) && parameter.accepts argument.value

/-- The text of a parameter. -/
def text (parameter : Parameter) : String :=
  parameter.name ++ ": " ++ parameter.type.typeName ++
    match parameter.missing with
    | .mandatory => ""
    | .optional => "?"
    | .substitute default => " = " ++ default.text

end Parameter

end GuardedScript

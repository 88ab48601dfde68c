import GuardedScript.Context.Functions
import GuardedScript.Member
import GuardedScript.Value.Host

/-!
# Registering host functions

A host function is registered together with a reader for each of its arguments.  A reader declares a
parameter and reads the bound argument as an element of a host type.  Functions of every arity are
registered in the same way; a member function has the reader of its receiver in front.

A host function may leave lines for the host when it runs, whether or not it has a result.
-/

set_option autoImplicit false

namespace GuardedScript

/-- A parameter, and a way to read its argument. -/
structure Reader (α : Type) where
  parameter : Parameter
  read? : Value → Option α

namespace Reader

variable {α : Type}

/-- A mandatory parameter of the type that a host type asks for. -/
def of (α : Type) [Readable α] (name : String) : Reader α :=
  ⟨.mandatory name (.declared (Readable.type α)), Readable.read?⟩

/-- A given parameter whose argument is read as an element of a host type. -/
def ofParameter (α : Type) [Readable α] (parameter : Parameter) : Reader α :=
  ⟨parameter, Readable.read?⟩

/-- A mandatory parameter whose argument is read in a special way. -/
def via (name : String) (type : ParameterType) (read? : Value → Option α) : Reader α :=
  ⟨.mandatory name type, read?⟩

/-- The receiver of a member function of a type that is known by its name. -/
def receiver (α : Type) [Readable α] (typeName : String) : Reader α :=
  ofParameter α (.mandatory selfArgument (.lateBound typeName))

/-- Reads the bound argument. -/
def extract (reader : Reader α) (bindings : Bindings) : Except Failure α :=
  match (bindings.get? reader.parameter.name).bind reader.read? with
  | some element => .ok element
  | none =>
    .error (.invalidArgument reader.parameter.name reader.parameter.type.typeName)

end Reader

/-- Readers for the arguments of host functions of the type `φ` with results in `ρ`. -/
inductive Readers (ρ : Type) : Type → Type 1
  /-- No arguments. -/
  | nil : Readers ρ ρ
  /-- A first argument and further ones. -/
  | cons {α φ : Type} (reader : Reader α) (rest : Readers ρ φ) : Readers ρ (α → φ)

namespace Readers

variable {ρ : Type}

/-- The declared parameters. -/
def parameters {φ : Type} : Readers ρ φ → List Parameter
  | nil => []
  | cons reader rest => reader.parameter :: rest.parameters

/-- Applies a host function to the bound arguments, which are read in order. -/
def call {φ : Type} : Readers ρ φ → φ → Bindings → Except Failure ρ
  | nil, result, _ => .ok result
  | cons reader rest, f, bindings =>
    match reader.extract bindings with
    | .ok element => rest.call (f element) bindings
    | .error reason => .error reason

end Readers

/-- A result that comes with lines for the host. -/
structure Noted (ρ : Type) where
  lines : List String
  result : ρ

/-- What a host function may come to: the lines that it leaves for the host, and its value. -/
class HostResult (ρ : Type) where
  lines : ρ → List String
  value : ρ → Value

/-- A result alone comes without lines. -/
instance (priority := low) {ρ : Type} [Writable ρ] : HostResult ρ where
  lines _ := []
  value := Writable.write

instance {ρ : Type} [Writable ρ] : HostResult (Noted ρ) where
  lines := Noted.lines
  value noted := Writable.write noted.result

/-- A routine that leaves some lines for the host first. -/
def Routine.notes (lines : List String) (next : Routine) : Routine :=
  lines.foldr Routine.note next

namespace Context

/-- Registers a function under its own name. -/
def registerOwn (context : Context) (global : Bool) (function : Function) :
    Access (Outcome Unit) :=
  context.register function.name function global

/-- Registers a new native function under its own name. -/
def registerNative (context : Context) (global : Bool) (name : String)
    (parameters : List Parameter) (routine : Bindings → Routine) : Access (Outcome Unit) := do
  let id ← freshFunction
  context.registerOwn global ⟨id, name, parameters, false, .native routine⟩

/-- Registers a host function, which leaves the lines of its result for the host. -/
def registerFunction {ρ φ : Type} [HostResult ρ] (context : Context) (global : Bool) (name : String)
    (readers : Readers ρ φ) (f : φ) : Access (Outcome Unit) :=
  context.registerNative global name readers.parameters (fun bindings =>
    match readers.call f bindings with
    | .ok result => .notes (HostResult.lines result) (.done (.success (HostResult.value result)))
    | .error reason => .done (.failure reason))

/-- Registers a host procedure, which leaves lines for the host and has no result. -/
def registerProcedure {φ : Type} (context : Context) (global : Bool) (name : String)
    (readers : Readers (List String) φ) (f : φ) : Access (Outcome Unit) :=
  context.registerNative global name readers.parameters (fun bindings =>
    match readers.call f bindings with
    | .ok lines => .notes lines (.done (.success .undefined))
    | .error reason => .done (.failure reason))

/-- Registers a host function as a member function of a type. -/
def registerMember {ρ φ α : Type} [HostResult ρ] [Readable α] (context : Context) (global : Bool)
    (typeName name : String) (readers : Readers ρ φ) (f : α → φ) : Access (Outcome Unit) :=
  context.registerFunction global (MemberKey.text ⟨.function, typeName, name⟩)
    (.cons (.receiver α typeName) readers) f

/-- Registers a host procedure as a member function of a type. -/
def registerMemberProcedure {φ α : Type} [Readable α] (context : Context) (global : Bool)
    (typeName name : String) (readers : Readers (List String) φ) (f : α → φ) :
    Access (Outcome Unit) :=
  context.registerProcedure global (MemberKey.text ⟨.function, typeName, name⟩)
    (.cons (.receiver α typeName) readers) f

end Context

end GuardedScript

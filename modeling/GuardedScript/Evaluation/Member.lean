import GuardedScript.Evaluation.Call
import GuardedScript.Member
import GuardedScript.Value.Coercion

/-!
# Members, operators and conversions

A member is looked for on the types of a value from the most specific one upward.  The policy is
asked once, before the first look-up.  The value itself is passed as a named argument.
-/

set_option autoImplicit false

namespace GuardedScript

/-- Calls a member of one type after the other up to the first success; else the first failure
counts. -/
def invokeOnTypes (perform : Evaluator) (context : Context) (kind : MemberKind) (member : String)
    (arguments : List (Argument Value)) : List String → Option Failure → Run (Outcome Value)
  | [], some reason => return .failure reason
  | [], none => return .empty
  | typeName :: typeNames, first => do
    match ← invoke perform context (MemberKey.text ⟨kind, typeName, member⟩) arguments with
    | .success value => return .success value
    | .empty => invokeOnTypes perform context kind member arguments typeNames first
    | .failure reason =>
      invokeOnTypes perform context kind member arguments typeNames (first.or (some reason))

/-- Calls a member if the policy lets it be looked for. -/
def invokeMember (perform : Evaluator) (context : Context) (check : Check) (action : String)
    (kind : MemberKind) (type : ValueType) (member : String) (arguments : List (Argument Value)) :
    Run (Outcome Value) :=
  context.guarded check
    (fun denial => pure (.failure ((Failure.accessDenied action).causedBy denial)))
    (invokeOnTypes perform context kind member arguments type.hierarchy none)

/-- Calls a member function of a receiver. -/
def invokeMemberFunction (perform : Evaluator) (context : Context) (receiver : Value)
    (name : String) (arguments : List (Argument Value)) : Run (Outcome Value) := do
  match ← resolve perform context receiver with
  | .success receiver =>
    let type := receiver.type
    invokeMember perform context (.askForMember type name)
      ("ask for member function '" ++ type.name ++ "." ++ name ++ "'") .function type name
      (.named selfArgument receiver :: arguments)
  | other => return other

/-- Reads a property of a receiver. -/
def readProperty (perform : Evaluator) (context : Context) (receiver : Value) (name : String) :
    Run (Outcome Value) := do
  match ← resolve perform context receiver with
  | .success receiver =>
    let type := receiver.type
    invokeMember perform context (.askForProperty type name)
      ("ask for property '" ++ type.name ++ "." ++ name ++ "'") .property type name
      [.named selfArgument receiver]
  | other => return other

/-- Applies the operator with a symbol; the type of the left operand decides. -/
def applyOperator (perform : Evaluator) (context : Context) (left : Value) (symbol : String)
    (right : Value) : Run (Outcome Value) := do
  match ← resolve perform context left with
  | .success left =>
    match ← resolve perform context right with
    | .success right =>
      let type := left.type
      invokeMember perform context (.askForOperator type symbol)
        ("ask for operator '" ++ type.name ++ " " ++ symbol ++ "'") .operator type symbol
        [.named leftOperand left, .named rightOperand right]
    | other => return other
  | other => return other

/-- Converts a value by the conversions that are registered for its type. -/
def castTo (perform : Evaluator) (context : Context) (value : Value) (target : ValueType) :
    Run (Outcome Value) := do
  match ← resolve perform context value with
  | .success value =>
    let type := value.type
    invokeMember perform context (.askForCast type target)
      ("ask for cast '" ++ type.name ++ "' to '" ++ target.name ++ "'") .cast type target.name
      [.named selfArgument value]
  | other => return other

/-- Converts a value to a type: by a built-in conversion, or else by a registered one, which a
sentinel that may not convert is not offered. -/
def convert (perform : Evaluator) (context : Context) (value : Value) (target : ValueType) :
    Run (Outcome Value) := do
  match ← resolve perform context value with
  | .success value =>
    match value.coerce context.options target with
    | .empty =>
      if value.isBlockedSentinel context.options then
        return .empty
      else
        castTo perform context value target
    | decided => return decided
  | other => return other

/-- Converts a value to a string. -/
def convertToString (perform : Evaluator) (context : Context) (value : Value) :
    Run (Outcome String) := do
  let outcome ← convert perform context value .string
  return outcome.bind (fun value =>
    match value with
    | .string s => .success s
    | _ => .empty)

/-- Converts a value to a number. -/
def convertToNumber (perform : Evaluator) (context : Context) (value : Value) :
    Run (Outcome Number) := do
  let outcome ← convert perform context value .number
  return outcome.bind (fun value => .ofOption (Number.ofValue? value))

/-- Converts a value to a truth value. -/
def convertToBoolean (perform : Evaluator) (context : Context) (value : Value) :
    Run (Outcome Bool) := do
  let outcome ← convert perform context value .boolean
  return outcome.bind (fun value =>
    match value with
    | .boolean b => .success b
    | _ => .empty)

end GuardedScript

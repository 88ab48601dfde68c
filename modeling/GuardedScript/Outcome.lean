import GuardedScript.Failure

/-!
# Outcomes

Every operation ends in one of three ways: it produces a value, it has nothing to say, or it fails.
Having nothing to say is not an error: a search that misses and a policy that abstains both say so,
and the caller is free to try something else.
-/

set_option autoImplicit false

namespace GuardedScript

/-- The result of an operation. -/
inductive Outcome (α : Type)
  /-- A value was produced, or a decision adopted. -/
  | success (value : α)
  /-- Nothing was found, or no opinion is held. -/
  | empty
  /-- The operation was denied or went wrong. -/
  | failure (reason : Failure)
deriving DecidableEq, Repr

namespace Outcome

variable {α β : Type}

instance : Inhabited (Outcome α) := ⟨.empty⟩

/-- Whether a value was produced. -/
def isSuccess : Outcome α → Bool
  | success _ => true
  | _ => false

/-- Whether there was nothing to say. -/
def isEmpty : Outcome α → Bool
  | empty => true
  | _ => false

/-- Whether the operation failed. -/
def isFailure : Outcome α → Bool
  | failure _ => true
  | _ => false

/-- The produced value. -/
def success? : Outcome α → Option α
  | success value => some value
  | _ => none

/-- The failure. -/
def failure? : Outcome α → Option Failure
  | failure reason => some reason
  | _ => none

/-- A value that may be missing is a success, or else nothing. -/
def ofOption : Option α → Outcome α
  | some value => success value
  | none => empty

/-- A checked value is a success, or else the failure of the check. -/
def ofExcept : Except Failure α → Outcome α
  | .ok value => success value
  | .error reason => failure reason

/-- The outcome as a checked value that may be missing. -/
def toExcept : Outcome α → Except Failure (Option α)
  | success value => .ok (some value)
  | empty => .ok none
  | failure reason => .error reason

/-- Applies a function to the produced value. -/
def map (f : α → β) : Outcome α → Outcome β
  | success value => success (f value)
  | empty => empty
  | failure reason => failure reason

/-- Goes on with another operation if a value was produced. -/
def bind (outcome : Outcome α) (f : α → Outcome β) : Outcome β :=
  match outcome with
  | success value => f value
  | empty => empty
  | failure reason => failure reason

instance : Monad Outcome where
  pure := success
  bind := bind

/-- Tries an alternative if there was nothing to say. -/
def orElse (outcome alternative : Outcome α) : Outcome α :=
  match outcome with
  | empty => alternative
  | other => other

/-- Produces a value if there was nothing to say. -/
def orSuccess (outcome : Outcome α) (value : α) : Outcome α :=
  outcome.orElse (success value)

/-- Tries an alternative, which may look at the failure, if the operation failed. -/
def recover (outcome : Outcome α) (alternative : Failure → Outcome α) : Outcome α :=
  match outcome with
  | failure reason => alternative reason
  | other => other

/-- Applies a function to the failure. -/
def mapFailure (outcome : Outcome α) (f : Failure → Failure) : Outcome α :=
  match outcome with
  | failure reason => failure (f reason)
  | other => other

/-- Forgets the value and keeps the way in which the operation ended. -/
def discard (outcome : Outcome α) : Outcome Unit :=
  outcome.map (fun _ => ())

end Outcome

end GuardedScript

import GuardedScript.Function

/-!
# Binding arguments to parameters

First every named argument takes the first free parameter of its name that accepts it.  Then the
other arguments, in call order, take the first free parameter in declaration order that fits.  An
argument that finds no parameter is left over, which only a variadic function allows.  Last, the
parameters that nothing took are bound to their defaults, stay unbound, or make the function not
apply.
-/

set_option autoImplicit false

namespace GuardedScript

/-- A parameter, and whether an argument has taken it. -/
structure Slot where
  parameter : Parameter
  taken : Bool

namespace Slot

/-- Takes the first free slot whose parameter passes a test, and tells its name. -/
def take? (test : Parameter → Bool) : List Slot → Option (String × List Slot)
  | [] => none
  | slot :: slots =>
    if !slot.taken && test slot.parameter then
      some (slot.parameter.name, { slot with taken := true } :: slots)
    else
      (take? test slots).map (fun found => (found.1, slot :: found.2))

/-- Binds what nothing took, in declaration order. -/
def close? : List Slot → Bindings → Option Bindings
  | [], bound => some bound
  | slot :: slots, bound =>
    if slot.taken then
      close? slots bound
    else
      match slot.parameter.missing with
      | .mandatory => none
      | .optional => close? slots bound
      | .substitute default => close? slots (bound.insert slot.parameter.name default)

end Slot

/-- How far a binding has come. -/
structure Progress where
  slots : List Slot
  bound : Bindings

namespace Progress

/-- Nothing is bound yet. -/
def start (parameters : List Parameter) : Progress :=
  ⟨parameters.map (fun parameter => ⟨parameter, false⟩), .empty⟩

/-- Binds a value to the first free parameter that passes a test. -/
def take? (progress : Progress) (test : Parameter → Bool) (value : Value) : Option Progress :=
  (Slot.take? test progress.slots).map
    (fun found => ⟨found.2, progress.bound.insert found.1 value⟩)

/-- Binds the named arguments to parameters of their names, and returns the arguments that are still
to be bound. -/
def takeNamed (progress : Progress) : List (Argument Value) → List (Argument Value) × Progress
  | [] => ([], progress)
  | ⟨none, value⟩ :: arguments =>
    let (remaining, final) := progress.takeNamed arguments
    (⟨none, value⟩ :: remaining, final)
  | ⟨some name, value⟩ :: arguments =>
    match progress.take? (fun parameter => parameter.name == name && parameter.accepts value)
        value with
    | some progress => progress.takeNamed arguments
    | none =>
      let (remaining, final) := progress.takeNamed arguments
      (⟨some name, value⟩ :: remaining, final)

/-- Binds arguments to the first free parameters that fit; what finds none is left over, if the
function allows that. -/
def takeFitting (variadic : Bool) (progress : Progress) : List (Argument Value) → Option Progress
  | [] => some progress
  | argument :: arguments =>
    match progress.take? (fun parameter => parameter.fits argument) argument.value with
    | some progress => progress.takeFitting variadic arguments
    | none =>
      if variadic then
        takeFitting variadic { progress with bound := progress.bound.pushRest argument.value }
          arguments
      else
        none

end Progress

/-- Binds arguments to the parameters of a function, or finds that the function does not apply. -/
def Function.bind? (function : Function) (arguments : List (Argument Value)) : Option Bindings :=
  let (remaining, progress) := (Progress.start function.parameters).takeNamed arguments
  (progress.takeFitting function.variadic remaining).bind
    (fun progress => Slot.close? progress.slots progress.bound)

end GuardedScript

import GuardedScript.Operator

/-!
# Reducing operator chains

A chain `start op₁ v₁ op₂ v₂ …` is reduced one tier at a time, the most tightly binding tier first,
and from left to right within a tier.  Applying an operator is left open: it may be any operation of
any monad.
-/

set_option autoImplicit false

namespace GuardedScript.Reduction

variable {m : Type → Type} [Monad m] {V : Type}

/-- One pass over the pending operators, which applies those of one tier.  An operator combines with
the nearest value on its left: that of the last operator carried over, or else the accumulator.  The
operators carried over are held with the last one first. -/
def pass (apply : V → Operator → V → m V) (tier : Tier) :
    V → List (Operator × V) → List (Operator × V) → m (V × List (Operator × V))
  | accumulator, carried, [] => pure (accumulator, carried.reverse)
  | accumulator, carried, (operator, operand) :: pending =>
    if operator.tier = tier then
      match carried with
      | [] => do
        let combined ← apply accumulator operator operand
        pass apply tier combined [] pending
      | (previous, value) :: carried => do
        let combined ← apply value operator operand
        pass apply tier accumulator ((previous, combined) :: carried) pending
    else
      pass apply tier accumulator ((operator, operand) :: carried) pending

/-- Passes for some tiers, in order, while operators are pending. -/
def reduceTiers (apply : V → Operator → V → m V) :
    List Tier → V → List (Operator × V) → m (V × List (Operator × V))
  | [], accumulator, pending => pure (accumulator, pending)
  | tier :: tiers, accumulator, pending =>
    if pending.isEmpty then
      pure (accumulator, pending)
    else do
      let (accumulator, pending) ← pass apply tier accumulator [] pending
      reduceTiers apply tiers accumulator pending

/-- Reduces a chain tier by tier; what is left is the accumulator and the operators still
pending. -/
def reduce (apply : V → Operator → V → m V) (start : V) (operations : List (Operator × V)) :
    m (V × List (Operator × V)) :=
  reduceTiers apply Tier.all start operations

end GuardedScript.Reduction

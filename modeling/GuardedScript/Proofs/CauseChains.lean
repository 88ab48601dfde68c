import GuardedScript.Failure

/-!
# The algebra of cause chains

A failure is its chain: different failures have different chains (`chain_injective`), so an equation
between failures is proved as one between lists.  The operations that walk along the causes agree
with the list.  Adding a root cause appends, the root cause is the last link, a code is searched for
in all links, and stepping from a failure to its cause visits the links one by one and in order
(`getElem?_chain`).
-/

set_option autoImplicit false

namespace GuardedScript.Failure

/-- What the outermost link of a failure says. -/
def report (failure : Failure) : Report :=
  ⟨failure.code, failure.message⟩

/-- The failure that one comes to by stepping to the cause some number of times. -/
def causeAfter? : Nat → Failure → Option Failure
  | 0, failure => some failure
  | steps + 1, failure => failure.cause?.bind (causeAfter? steps)

variable {failure other : Failure}

/-- A chain has at least the failure itself. -/
theorem chain_ne_nil (failure : Failure) : failure.chain ≠ [] := by
  rw [chain_eq_cons]
  exact List.cons_ne_nil _ _

/-- Failures with the same chain are the same. -/
theorem chain_injective (h : failure.chain = other.chain) : failure = other := by
  induction failure generalizing other with
  | bare code message =>
    cases other with
    | bare _ _ =>
      cases h
      rfl
    | caused _ _ cause =>
      obtain ⟨-, hcause⟩ := List.cons.inj h
      exact absurd hcause.symm cause.chain_ne_nil
  | caused code message cause ih =>
    cases other with
    | bare _ _ =>
      obtain ⟨-, hcause⟩ := List.cons.inj h
      exact absurd hcause cause.chain_ne_nil
    | caused _ _ otherCause =>
      obtain ⟨hreport, hcause⟩ := List.cons.inj h
      obtain rfl := ih hcause
      cases hreport
      rfl

/-- Stepping from cause to cause visits the links of the chain. -/
theorem getElem?_chain (failure : Failure) (steps : Nat) :
    failure.chain[steps]? = (failure.causeAfter? steps).map report := by
  induction steps generalizing failure with
  | zero => cases failure <;> rfl
  | succ steps ih =>
    cases failure with
    | bare code message => rfl
    | caused code message cause => exact ih cause

/-- There is one link more than there are steps from cause to cause. -/
theorem length_chain (failure : Failure) : failure.chain.length = failure.causeCount + 1 := by
  induction failure with
  | bare code message => rfl
  | caused code message cause ih => rw [chain, List.length_cons, ih, causeCount]

/-- The chain of the root cause is the last link. -/
theorem chain_rootCause (failure : Failure) :
    failure.rootCause.chain = [failure.chain.getLast failure.chain_ne_nil] := by
  induction failure with
  | bare code message => rfl
  | caused code message cause ih =>
    rw [rootCause, ih]
    exact congrArg (fun last => [last]) (List.getLast_cons cause.chain_ne_nil).symm

/-- Root causes may be added in either grouping. -/
theorem withRootCause_assoc (first second third : Failure) :
    (first.withRootCause second).withRootCause third =
      first.withRootCause (second.withRootCause third) := by
  apply chain_injective
  simp only [chain_withRootCause, List.append_assoc]

/-- What is added behind the last cause ends the chain. -/
theorem rootCause_withRootCause (failure root : Failure) :
    (failure.withRootCause root).rootCause = root.rootCause := by
  apply chain_injective
  rw [chain_rootCause, chain_rootCause]
  simp only [chain_withRootCause, List.getLast_append_of_ne_nil _ root.chain_ne_nil]

/-- A failure with a root cause has the codes of both. -/
theorem hasCode_withRootCause (failure root : Failure) (code : Code) :
    (failure.withRootCause root).hasCode code = (failure.hasCode code || root.hasCode code) := by
  simp only [hasCode, chain_withRootCause, List.any_append]

/-- Failures are told apart by their chains, and each operation on them is one on the chains.  A
root cause is appended, so that adding root causes is associative, and a direct cause stands behind
the outermost link alone.  The root cause is the last link, and after a root cause was added it is
the root cause of what was added.  A code occurs in a failure with an added root cause exactly if it
occurs in one of the two.  From cause to cause one comes past all links but the outermost, in their
order. -/
theorem chain_algebra (first second third : Failure) (code : Code) :
    (first.withRootCause second).chain = first.chain ++ second.chain ∧
      (∃ head rest, first.chain = head :: rest ∧
        (first.causedBy second).chain = head :: second.chain) ∧
      (first.withRootCause second).withRootCause third =
        first.withRootCause (second.withRootCause third) ∧
      (first = second ↔ first.chain = second.chain) ∧
      first.rootCause.chain = [first.chain.getLast first.chain_ne_nil] ∧
      (first.withRootCause second).rootCause = second.rootCause ∧
      ((first.withRootCause second).hasCode code = true ↔
        first.hasCode code = true ∨ second.hasCode code = true) ∧
      first.causeCount = first.chain.length - 1 ∧
      ∀ steps, first.chain[steps]? = (first.causeAfter? steps).map report := by
  refine ⟨chain_withRootCause first second, ?_, withRootCause_assoc first second third,
    ⟨congrArg chain, chain_injective⟩, chain_rootCause first,
    rootCause_withRootCause first second, ?_, ?_, getElem?_chain first⟩
  · exact ⟨first.report, _, chain_eq_cons first, chain_causedBy first second⟩
  · rw [hasCode_withRootCause, Bool.or_eq_true]
  · rw [length_chain, Nat.add_sub_cancel]

end GuardedScript.Failure

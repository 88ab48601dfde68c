import GuardedScript.Proofs.Inheritance

/-!
# Call budgets count nested calls

A budget may stand alone or be the first child of compound policies, one in another.  Each call runs
under a policy with one call less at the same place, and no policy is ever changed: what is left in
a context depends only on the calls that it is inside of, not on those that were made before.  So in
a session that starts with a budget, every context has exactly as many calls left as the budget had
less the calls between the two, and where none is left no body runs (`Session.budgeted`).
-/

set_option autoImplicit false

namespace GuardedScript

namespace Policy

/-- The calls left in a budget that is the first child of so many compound policies, one in another,
none of which has an opinion of its own before it. -/
def leadingBudget? : Nat → Policy → Option Nat
  | 0, budget remaining => some remaining
  | level + 1, compound .empty (first :: _) _ => leadingBudget? level first
  | _, _ => none

/-- The policy with no opinion in the place of its leading budget. -/
def withoutBudget : Nat → Policy → Policy
  | 0, budget _ => permissive
  | level + 1, compound .empty (first :: others) finisher =>
    compound .empty (withoutBudget level first :: others) finisher
  | _, policy => policy

/-- A budget that is first at no level is the policy itself. -/
theorem leadingBudget?_zero {policy : Policy} {remaining : Nat}
    (h : policy.leadingBudget? 0 = some remaining) : policy = .budget remaining := by
  cases policy with
  | budget left =>
    cases h
    rfl
  | _ => cases h

/-- A budget one level further in is first in the first child of a compound without a start. -/
theorem leadingBudget?_succ {policy : Policy} {level remaining : Nat}
    (h : policy.leadingBudget? (level + 1) = some remaining) :
    ∃ first others finisher, policy = .compound .empty (first :: others) finisher ∧
      first.leadingBudget? level = some remaining := by
  cases policy with
  | compound starting children finisher =>
    cases starting with
    | empty =>
      cases children with
      | nil => cases h
      | cons first others => exact ⟨first, others, finisher, rfl, h⟩
    | success grant => cases h
    | failure reason => cases h
  | _ => cases h

variable (site : Site) (function : Function)

/-- Nobody is asked any more after a denial. -/
theorem firstOpinion_failure (check : Check) (reason : Failure) (policies : List Policy) :
    firstOpinion site check (.failure reason) policies = .failure reason := by
  cases policies with
  | nil => rfl
  | cons policy policies => rfl

/-- An empty budget is heard before all other policies. -/
theorem answer_of_leadingBudget?_eq_zero {level : Nat} {policy : Policy}
    (h : policy.leadingBudget? level = some 0) :
    policy.answer site (.runFunction function) =
      .failure (.callBudgetExhausted function.name) := by
  induction level generalizing policy with
  | zero =>
    rw [leadingBudget?_zero h]
    rfl
  | succ level ih =>
    obtain ⟨first, others, finisher, rfl, hfirst⟩ := leadingBudget?_succ h
    have hanswer := ih hfirst
    simp only [answer, firstOpinion]
    rw [hanswer, firstOpinion_failure]
    rfl

/-- A budget that is not empty leaves the answer to the other policies. -/
theorem answer_of_leadingBudget?_ne_zero {level remaining : Nat} {policy : Policy}
    (h : policy.leadingBudget? level = some remaining) (hpositive : remaining ≠ 0) :
    policy.answer site (.runFunction function) =
      (policy.withoutBudget level).answer site (.runFunction function) := by
  induction level generalizing policy with
  | zero =>
    rw [leadingBudget?_zero h]
    simp [withoutBudget, answer, hpositive]
  | succ level ih =>
    obtain ⟨first, others, finisher, rfl, hfirst⟩ := leadingBudget?_succ h
    have hanswer := ih hfirst
    simp only [withoutBudget, answer, firstOpinion, hanswer]

/-- A policy with a leading budget fails to derive a policy for a call, or derives one with one call
less in the same place. -/
theorem derive_of_leadingBudget? {level remaining : Nat} {policy : Policy}
    (h : policy.leadingBudget? level = some remaining) :
    (∃ reason, policy.derive site function = .failure reason) ∨
      ∃ derived, policy.derive site function = .success derived ∧
        derived.leadingBudget? level = some (remaining - 1) := by
  induction level generalizing policy with
  | zero =>
    rw [leadingBudget?_zero h]
    exact .inr ⟨.budget (remaining - 1), rfl, rfl⟩
  | succ level ih =>
    obtain ⟨first, others, finisher, rfl, hfirst⟩ := leadingBudget?_succ h
    simp only [derive, deriveAll]
    rcases ih hfirst with ⟨reason, hfails⟩ | ⟨derived, hderives, hleft⟩
    · rw [hfails]
      exact .inl ⟨reason, rfl⟩
    · rw [hderives]
      -- the others may be kept, replaced or fail, which does not touch the first
      cases deriveAll site function others with
      | error reason => exact .inl ⟨reason, rfl⟩
      | ok rest => exact .inr ⟨.compound .empty (derived :: rest) finisher, rfl, hleft⟩

end Policy

/-! ### The invariant -/

/-- The number of calls among some contexts. -/
def callCount (contexts : List Context) : Nat :=
  contexts.countP (fun context => context.invoked?.isSome)

/-- The context is below the start, inside of no more calls from there than the budget had, and has
exactly the others left. -/
def Budgeted (start : Context) (level total : Nat) (context : Context) : Prop :=
  ∃ inner, context.ancestry = inner ++ start.ancestry ∧ callCount inner ≤ total ∧
    context.policy.leadingBudget? level = some (total - callCount inner)

section Budgeted

variable {start context : Context} {level total : Nat} {function : Function}

/-- The start has all of its budget left. -/
theorem budgeted_start (h : start.policy.leadingBudget? level = some total) :
    Budgeted start level total start :=
  ⟨[], rfl, Nat.zero_le total, h⟩

/-- A call is refused if no call is left. -/
theorem decision_of_spent (h : context.policy.leadingBudget? level = some 0) (store : Store) :
    context.decision store (.runFunction function) =
      .failure (.callBudgetExhausted function.name) :=
  Policy.answer_of_leadingBudget?_eq_zero (context.site store) function h

/-- A call has one call less left than its caller. -/
theorem leadingBudget?_calleeAt {remaining : Nat}
    (h : context.policy.leadingBudget? level = some remaining) {store : Store}
    (derived : ∀ reason, context.derivation store function ≠ .failure reason) :
    (context.calleeAt store function).policy.leadingBudget? level = some (remaining - 1) := by
  rcases Policy.derive_of_leadingBudget? (context.site store) function h with
    ⟨reason, hfails⟩ | ⟨policy, hderives, hleft⟩
  · exact absurd hfails (derived reason)
  · have hderivation : context.derivation store function = .success policy := hderives
    rw [Context.policy_calleeAt, hderivation]
    exact hleft

/-- A call that is not refused uses one of the calls that are left. -/
theorem Budgeted.lt_of_permits {inner : List Context}
    (hleft : context.policy.leadingBudget? level = some (total - callCount inner)) {store : Store}
    (permits : context.Permits store (.runFunction function)) : callCount inner < total := by
  rcases Nat.lt_or_ge (callCount inner) total with hlt | hspent
  · exact hlt
  · have hzero : total - callCount inner = 0 := by omega
    rw [hzero] at hleft
    exact absurd (decision_of_spent hleft store) (permits _)

/-- All contexts below the start have left what the calls that they are inside of leave. -/
theorem inherited_budgeted (start : Context) (level total : Nat) :
    Inherited 0 (Budgeted start level total) where
  scope := by
    intro context id marker _ h
    obtain ⟨inner, hancestry, hmost, hleft⟩ := h
    have hcount : callCount (context.scopeAt id marker :: inner) = callCount inner := by
      simp [callCount]
    refine ⟨context.scopeAt id marker :: inner, ?_, ?_, ?_⟩
    · rw [Context.ancestry_scopeAt, hancestry, List.cons_append]
    · omega
    · rw [hcount]
      exact hleft
  call := by
    intro context store function _ h permits derived
    obtain ⟨inner, hancestry, hmost, hleft⟩ := h
    have hcount : callCount (context.calleeAt store function :: inner) = callCount inner + 1 := by
      simp [callCount, List.countP_cons]
    have hlt : callCount inner < total := Budgeted.lt_of_permits hleft permits
    have hcallee := leadingBudget?_calleeAt hleft derived
    refine ⟨context.calleeAt store function :: inner, ?_, ?_, ?_⟩
    · rw [Context.ancestry_calleeAt, hancestry, List.cons_append]
    · omega
    · have hrest : total - callCount inner - 1 = total - (callCount inner + 1) := by omega
      rw [hcount, hcallee, hrest]

end Budgeted

/-- Call budgets hold.  In a session that starts under a budget, alone or first in compound
policies, every context is inside of at most as many calls from the start as the budget has, and has
exactly the others left in the same place.  Where none is left, a call fails with its body not run;
as long as there is one, the other policies alone decide.  What a call has left depends on where it
is made from and not on what was called before. -/
theorem Session.budgeted {start : Context} {level total : Nat}
    (budget : start.policy.leadingBudget? level = some total) {state final : State}
    {events : List Event} (session : Session start state events final) :
    (∀ context, Reached start events context →
      ∃ inner, context.ancestry = inner ++ start.ancestry ∧ callCount inner ≤ total ∧
        context.policy.leadingBudget? level = some (total - callCount inner) ∧
        (callCount inner = total → ∀ fuel lookup function bindings current,
          invokeObject (perform fuel) lookup context function bindings current =
            (some (.failure (.callBudgetExhausted function.name)),
              current.asked context (.runFunction function))) ∧
        (callCount inner < total → ∀ store function,
          context.decision store (.runFunction function) =
            (context.policy.withoutBudget level).answer (context.site store)
              (.runFunction function))) ∧
      ∀ lookup caller callee, .entered lookup caller callee ∈ events →
        ∃ inner, caller.ancestry = inner ++ start.ancestry ∧ callCount inner < total ∧
          caller.policy.leadingBudget? level = some (total - callCount inner) ∧
          callee.policy.leadingBudget? level = some (total - callCount inner - 1) := by
  have hinherited := inherited_budgeted start level total
  have hstart : Budgeted start level total start := budgeted_start budget
  constructor
  · intro context reached
    obtain ⟨inner, hancestry, hmost, hleft⟩ := session.reached hinherited hstart reached
    refine ⟨inner, hancestry, hmost, hleft, ?_, ?_⟩
    · intro hspent fuel lookup function bindings current
      have hzero : context.policy.leadingBudget? level = some 0 := by
        rw [hleft, hspent, Nat.sub_self]
      exact invokeObject_of_refused _ _ _ _ (decision_of_spent hzero current.store)
    · intro hlt store function
      have hpositive : total - callCount inner ≠ 0 := by omega
      exact Policy.answer_of_leadingBudget?_ne_zero (context.site store) function hleft hpositive
  · intro lookup caller callee hmem
    obtain ⟨⟨inner, hancestry, -, hleft⟩, -, store, function, hcallee, permits, derived⟩ :=
      session.within hinherited hstart _ hmem
    refine ⟨inner, hancestry, Budgeted.lt_of_permits hleft permits, hleft, ?_⟩
    rw [hcallee]
    exact leadingBudget?_calleeAt hleft derived

/-- A native function that calls itself, and succeeds whatever comes of it. -/
def persistent : Function :=
  ⟨0, "g", [], false, .native (fun _ => .invoke "g" [] (fun _ => .done (.success .undefined)))⟩

/-- A root with a budget of two calls inside of two compound policies. -/
def budgetedRoot : Context :=
  .root ⟨0, .global, .compound .empty [.compound .empty [.budget 2, .permissive] .empty]
    (.success ()), {}⟩

def persistentOnce : State where
  store := ⟨#[⟨∅, (∅ : Table _).insert "g" [persistent]⟩]⟩

/-- The state after the function was called twice in one scope. -/
def persistentCalled : State :=
  Move.result 20 budgetedRoot persistentOnce
    (.serve (.block ⟨defaultMarker, [.evaluate (.call "g" []), .evaluate (.call "g" [])]⟩))

/-- The second call finds as much of the budget as the first one did. -/
theorem budgeted_persistent :
    budgetedRoot.policy.leadingBudget? 2 = some 2 ∧
      Session budgetedRoot persistentOnce persistentCalled.trace persistentCalled ∧
      (persistentCalled.trace.filterMap Event.created?).map
        (fun context => context.policy.leadingBudget? 2) =
          [some 0, some 1, some 0, some 1, some 2] ∧
      (∀ context, Reached budgetedRoot persistentCalled.trace context →
        ∃ inner, context.ancestry = inner ++ budgetedRoot.ancestry ∧ callCount inner ≤ 2 ∧
          context.policy.leadingBudget? 2 = some (2 - callCount inner) ∧
          (callCount inner = 2 → ∀ fuel lookup function bindings current,
            invokeObject (perform fuel) lookup context function bindings current =
              (some (.failure (.callBudgetExhausted function.name)),
                current.asked context (.runFunction function))) ∧
          (callCount inner < 2 → ∀ store function,
            context.decision store (.runFunction function) =
              (context.policy.withoutBudget 2).answer (context.site store)
                (.runFunction function))) ∧
      ∀ lookup caller callee, .entered lookup caller callee ∈ persistentCalled.trace →
        ∃ inner, caller.ancestry = inner ++ budgetedRoot.ancestry ∧ callCount inner < 2 ∧
          caller.policy.leadingBudget? 2 = some (2 - callCount inner) ∧
          callee.policy.leadingBudget? 2 = some (2 - callCount inner - 1) := by
  have session : Session budgetedRoot persistentOnce persistentCalled.trace persistentCalled :=
    Session.single 20 _ (List.append_nil _).symm
  exact ⟨rfl, session, by decide +kernel, Session.budgeted rfl session⟩

end GuardedScript

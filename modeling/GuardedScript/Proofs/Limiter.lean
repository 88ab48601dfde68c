import GuardedScript.Proofs.Inheritance
import GuardedScript.Proofs.Termination

/-!
# Recursion limits hold in all contexts

Limits count along the contexts around a caller: how many there are, and how many of them are calls
of the function that is to be called.  Blocks deepen contexts as well, functions are found further
out than they run, and one function may be found under several names; the counts do not depend on
any of this.  A call adds one to the depth and one to the count of its own function, and it is made
only below both limits.  So in a session that starts in a root no context exceeds them
(`Session.within_limits`).
-/

set_option autoImplicit false

namespace GuardedScript

/-! ### Counting running calls -/

namespace Context

/-- A global context, around which there are only others of this kind. -/
def IsRoot (context : Context) : Prop :=
  ∀ outer ∈ context.ancestry, outer.kind = .global

/-- What policies see of the contexts is what these are for. -/
theorem lineage_eq_map_ancestry (context : Context) :
    context.lineage = context.ancestry.map kind := by
  induction context with
  | root frame => rfl
  | nested frame parent ih =>
    rw [lineage, ancestry, List.map_cons, ih]
    rfl

/-- In a root no call is running. -/
theorem active_of_isRoot {context : Context} (root : context.IsRoot) (function : Function) :
    context.active function = 0 := by
  have hkind : ∀ kind ∈ context.lineage, ¬ (Kind.isCallOf function kind = true) := by
    intro kind hmem
    rw [lineage_eq_map_ancestry] at hmem
    obtain ⟨outer, houter, rfl⟩ := List.mem_map.mp hmem
    rw [root outer houter]
    exact Bool.false_ne_true
  exact List.countP_eq_zero.mpr hkind

/-- A scope leaves the counts of running calls as they are. -/
theorem active_scopeAt (context : Context) (id : Nat) (marker : String) (function : Function) :
    (context.scopeAt id marker).active function = context.active function := by
  simp [active, Kind.isCallOf]

/-- A call counts for its own function, which is told by its identity. -/
theorem active_calleeAt (context : Context) (store : Store) (called function : Function) :
    (context.calleeAt store called).active function =
      context.active function + if called.id = function.id then 1 else 0 := by
  simp [active, Kind.isCallOf, List.countP_cons]

/-- Functions of one identity are counted together. -/
theorem active_congr (context : Context) {called function : Function}
    (h : called.id = function.id) : context.active called = context.active function := by
  have hkinds : Kind.isCallOf called = Kind.isCallOf function := by
    funext kind
    cases kind with
    | global => rfl
    | scope marker => rfl
    | call running => simp only [Kind.isCallOf, h]
  simp only [active, hkinds]

end Context

/-! ### What limits refuse -/

namespace Limits

/-- The context is as deep as contexts may be that make no call. -/
def DepthReached (limits : Limits) (context : Context) : Prop :=
  ∃ deepest, limits.maxDepth = some deepest ∧ deepest ≤ context.depth

/-- As many calls of the function are running as there may be. -/
def RecursionReached (limits : Limits) (context : Context) (function : Function) : Prop :=
  ∃ most, limits.maxRecursion = some most ∧ most ≤ context.active function

variable {limits : Limits} {context : Context} {function : Function}

/-- A limit on the depth refuses with its code if it is reached, and else does not refuse. -/
theorem depthRefusal?_cases (limits : Limits) (context : Context) :
    (limits.DepthReached context ∧ ∃ reason,
      Policy.depthRefusal? limits context.depth = some reason ∧
        reason.code.text = if limits.hidden then "T4002" else "T4001") ∨
      (¬ limits.DepthReached context ∧ Policy.depthRefusal? limits context.depth = none) := by
  unfold Policy.depthRefusal? DepthReached
  cases limits.maxDepth with
  | none => exact .inr ⟨by simp, rfl⟩
  | some deepest =>
    by_cases hdeep : deepest ≤ context.depth
    · refine .inl ⟨⟨deepest, rfl, hdeep⟩, _, if_pos hdeep, ?_⟩
      cases limits.hidden with
      | true => exact (by decide : Code.text .maxDepthReachedHidden = "T4002")
      | false => exact (by decide : Code.text .maxDepthReached = "T4001")
    · exact .inr ⟨by simpa using hdeep, if_neg hdeep⟩

/-- A limit on running calls refuses with its code if it is reached, and else does not refuse. -/
theorem recursionRefusal?_cases (limits : Limits) (context : Context) (function : Function) :
    (limits.RecursionReached context function ∧ ∃ reason,
      Policy.recursionRefusal? limits function.name (context.active function) = some reason ∧
        reason.code.text = if limits.hidden then "T4004" else "T4003") ∨
      (¬ limits.RecursionReached context function ∧
        Policy.recursionRefusal? limits function.name (context.active function) = none) := by
  unfold Policy.recursionRefusal? RecursionReached
  cases limits.maxRecursion with
  | none => exact .inr ⟨by simp, rfl⟩
  | some most =>
    by_cases hmany : most ≤ context.active function
    · refine .inl ⟨⟨most, rfl, hmany⟩, _, if_pos hmany, ?_⟩
      cases limits.hidden with
      | true => exact (by decide : Code.text .maxRecursionReachedHidden = "T4004")
      | false => exact (by decide : Code.text .maxRecursionReached = "T4003")
    · exact .inr ⟨by simpa using hmany, if_neg hmany⟩

/-- Limits refuse a call for the depth, or else for the running calls of the function, or else have
no opinion on it. -/
theorem decision_cases (policy : context.policy = .limiter limits) (store : Store)
    (function : Function) :
    (limits.DepthReached context ∧ ∃ reason,
      context.decision store (.runFunction function) = .failure reason ∧
        reason.code.text = if limits.hidden then "T4002" else "T4001") ∨
      (¬ limits.DepthReached context ∧ limits.RecursionReached context function ∧ ∃ reason,
        context.decision store (.runFunction function) = .failure reason ∧
          reason.code.text = if limits.hidden then "T4004" else "T4003") ∨
      (¬ limits.DepthReached context ∧ ¬ limits.RecursionReached context function ∧
        context.decision store (.runFunction function) = .empty) := by
  have hdecision : context.decision store (.runFunction function) =
      Policy.limitDecision limits (context.site store) function := by
    simp only [Context.decision, policy, Policy.answer]
  rw [hdecision]
  unfold Policy.limitDecision
  rw [Context.depth_site, Context.active_site]
  rcases limits.depthRefusal?_cases context with ⟨hdepth, reason, hrefusal, hcode⟩ | ⟨hdepth, hnone⟩
  · rw [hrefusal]
    exact .inl ⟨hdepth, reason, rfl, hcode⟩
  · rw [hnone]
    rcases limits.recursionRefusal?_cases context function with
      ⟨hrecursion, reason, hrefusal, hcode⟩ | ⟨hrecursion, hnone⟩
    · rw [hrefusal]
      exact .inr (.inl ⟨hdepth, hrecursion, reason, rfl, hcode⟩)
    · rw [hnone]
      exact .inr (.inr ⟨hdepth, hrecursion, rfl⟩)

/-- Limits derive no other policy. -/
theorem derivation_limiter (policy : context.policy = .limiter limits) (store : Store) :
    context.derivation store function = .empty := by
  simp only [Context.derivation, policy, Policy.derive]

/-- What limits mean for the calls from a context: at the limit on the depth, or else at the one on
the running calls of the function, nothing happens but the refusal; below both the body runs. -/
structure Rule (limits : Limits) (context : Context) : Prop where
  depth : ∀ fuel lookup function bindings state, limits.DepthReached context →
    ∃ reason, reason.code.text = (if limits.hidden then "T4002" else "T4001") ∧
      invokeObject (perform fuel) lookup context function bindings state =
        (some (.failure reason), state.asked context (.runFunction function))
  recursion : ∀ fuel lookup function bindings state, ¬ limits.DepthReached context →
    limits.RecursionReached context function →
    ∃ reason, reason.code.text = (if limits.hidden then "T4004" else "T4003") ∧
      invokeObject (perform fuel) lookup context function bindings state =
        (some (.failure reason), state.asked context (.runFunction function))
  admits : ∀ fuel lookup function bindings state, ¬ limits.DepthReached context →
    ¬ limits.RecursionReached context function →
    invokeObject (perform fuel) lookup context function bindings state =
      perform fuel (context.calleeAt state.store function) (.run function bindings)
        (state.called lookup context function)

/-- A context under limits makes its calls by them. -/
theorem rule_of_policy (policy : context.policy = .limiter limits) : limits.Rule context := by
  constructor
  · intro fuel lookup function bindings state hdepth
    rcases decision_cases policy state.store function with ⟨-, reason, hrefused, hcode⟩ |
      ⟨hnot, -⟩ | ⟨hnot, -⟩
    · exact ⟨reason, hcode, invokeObject_of_refused _ _ _ _ hrefused⟩
    · exact absurd hdepth hnot
    · exact absurd hdepth hnot
  · intro fuel lookup function bindings state hdepth hrecursion
    rcases decision_cases policy state.store function with ⟨hreached, -⟩ |
      ⟨-, -, reason, hrefused, hcode⟩ | ⟨-, hnot, -⟩
    · exact absurd hreached hdepth
    · exact ⟨reason, hcode, invokeObject_of_refused _ _ _ _ hrefused⟩
    · exact absurd hrecursion hnot
  · intro fuel lookup function bindings state hdepth hrecursion
    rcases decision_cases policy state.store function with ⟨hreached, -⟩ | ⟨-, hreached, -⟩ |
      ⟨-, -, hempty⟩
    · exact absurd hreached hdepth
    · exact absurd hreached hrecursion
    · refine invokeObject_of_permits _ _ _ _ ?_ ?_
      · intro reason heq
        rw [hempty] at heq
        cases heq
      · intro reason heq
        rw [derivation_limiter policy] at heq
        cases heq

/-- A call that is not refused is made below both limits. -/
theorem not_reached_of_permits (policy : context.policy = .limiter limits) {store : Store}
    (permits : context.Permits store (.runFunction function)) :
    ¬ limits.DepthReached context ∧ ¬ limits.RecursionReached context function := by
  rcases decision_cases policy store function with ⟨-, reason, hrefused, -⟩ |
    ⟨-, -, reason, hrefused, -⟩ | ⟨hdepth, hrecursion, -⟩
  · exact absurd hrefused (permits reason)
  · exact absurd hrefused (permits reason)
  · exact ⟨hdepth, hrecursion⟩

/-! ### The invariant -/

/-- A context under limits, and within them. -/
structure Bound (limits : Limits) (context : Context) : Prop where
  policy : context.policy = .limiter limits
  recursion : ∀ most, limits.maxRecursion = some most → ∀ function,
    context.active function ≤ most
  depth : ∀ deepest, limits.maxDepth = some deepest → ∀ function,
    context.kind = .call function → context.depth ≤ deepest

/-- A root is within all limits. -/
theorem bound_of_isRoot (root : context.IsRoot) (policy : context.policy = .limiter limits) :
    limits.Bound context := by
  refine ⟨policy, ?_, ?_⟩
  · intro most _ function
    rw [Context.active_of_isRoot root]
    exact Nat.zero_le most
  · intro deepest _ function hkind
    have hglobal := root context (Context.mem_ancestry_self context)
    rw [hglobal] at hkind
    cases hkind

/-- A scope is within the limits of the context around it. -/
theorem Bound.scopeAt (h : limits.Bound context) (id : Nat) (marker : String) :
    limits.Bound (context.scopeAt id marker) := by
  refine ⟨h.policy, ?_, ?_⟩
  · intro most hmost function
    rw [Context.active_scopeAt]
    exact h.recursion most hmost function
  · intro deepest _ function hkind
    cases hkind

/-- A call that is not refused is within the limits of its caller. -/
theorem Bound.calleeAt (h : limits.Bound context) {store : Store}
    (permits : context.Permits store (.runFunction function)) :
    limits.Bound (context.calleeAt store function) := by
  obtain ⟨hdepth, hrecursion⟩ := not_reached_of_permits h.policy permits
  refine ⟨?_, ?_, ?_⟩
  · rw [Context.policy_calleeAt, derivation_limiter h.policy]
    exact h.policy
  · intro most hmost other
    have hothers := h.recursion most hmost other
    rw [Context.active_calleeAt]
    -- only the count of the called function goes up, and that is below the limit
    by_cases hsame : function.id = other.id
    · have hbelow : ¬ most ≤ context.active function := fun hmany =>
        hrecursion ⟨most, hmost, hmany⟩
      rw [context.active_congr hsame] at hbelow
      rw [if_pos hsame]
      omega
    · rw [if_neg hsame]
      omega
  · intro deepest hdeepest called _
    have hbelow : ¬ deepest ≤ context.depth := fun hdeep => hdepth ⟨deepest, hdeepest, hdeep⟩
    rw [Context.depth_calleeAt]
    omega

/-- All contexts below one within its limits are within them. -/
theorem inherited_bound (limits : Limits) : Inherited 0 limits.Bound where
  scope := fun marker _ h => h.scopeAt _ marker
  call := fun _ h permits _ => h.calleeAt permits

end Limits

/-- Recursion limits hold.  In a session that starts in a root under limits, all contexts are under
these limits, no function has more running calls in any of them than it may have, and no call is
deeper than calls may be.  A call from such a context is refused, and does nothing else, exactly at
one of the limits, and all calls of the session were made below both. -/
theorem Session.within_limits {start : Context} {limits : Limits} (root : start.IsRoot)
    (policy : start.policy = .limiter limits) {state final : State} {events : List Event}
    (session : Session start state events final) :
    (∀ context, Reached start events context →
      context.depth + 1 = context.ancestry.length ∧ limits.Bound context ∧
        limits.Rule context) ∧
      ∀ lookup caller callee, .entered lookup caller callee ∈ events →
        limits.Bound caller ∧ ∃ function, callee.parent? = some caller ∧
          callee.kind = .call function ∧ ¬ limits.DepthReached caller ∧
          ¬ limits.RecursionReached caller function := by
  have hstart : limits.Bound start := Limits.bound_of_isRoot root policy
  constructor
  · intro context reached
    have hbound : limits.Bound context := session.reached limits.inherited_bound hstart reached
    exact ⟨context.length_ancestry.symm, hbound, Limits.rule_of_policy hbound.policy⟩
  · intro lookup caller callee hmem
    obtain ⟨hcaller, -, store, function, hcallee, permits, -⟩ :=
      session.within limits.inherited_bound hstart _ hmem
    obtain ⟨hdepth, hrecursion⟩ := Limits.not_reached_of_permits hcaller.policy permits
    refine ⟨hcaller, function, ?_, ?_, hdepth, hrecursion⟩
    · rw [hcallee]
      rfl
    · rw [hcallee]
      rfl

/-- A root in which at most two calls of a function may run. -/
def limitedRoot : Context :=
  .root ⟨0, .global, .limiter ⟨some 4, some 2, false⟩, {}⟩

/-- A function that calls itself forever, under two names. -/
def twiceNamed : State where
  store := ⟨#[⟨∅, ((∅ : Table _).insert "f" [endless]).insert "g" [endless]⟩]⟩

/-- The state after the function was called under its second name. -/
def twiceNamedCalled : State :=
  Move.result 20 limitedRoot twiceNamed (.serve (.evaluate (.call "g" [])))

/-- The function runs twice, whatever it is called by, and its third call is refused. -/
theorem within_limits_endless :
    limitedRoot.IsRoot ∧ limitedRoot.policy = .limiter ⟨some 4, some 2, false⟩ ∧
      Session limitedRoot twiceNamed twiceNamedCalled.trace twiceNamedCalled ∧
      (twiceNamedCalled.trace.filterMap Event.created?).map
        (fun context => (context.depth, context.active endless)) = [(2, 2), (1, 1)] ∧
      (∀ context, Reached limitedRoot twiceNamedCalled.trace context →
        context.depth + 1 = context.ancestry.length ∧
          Limits.Bound ⟨some 4, some 2, false⟩ context ∧
          Limits.Rule ⟨some 4, some 2, false⟩ context) ∧
      ∀ lookup caller callee, .entered lookup caller callee ∈ twiceNamedCalled.trace →
        Limits.Bound ⟨some 4, some 2, false⟩ caller ∧ ∃ function,
          callee.parent? = some caller ∧ callee.kind = .call function ∧
          ¬ Limits.DepthReached ⟨some 4, some 2, false⟩ caller ∧
          ¬ Limits.RecursionReached ⟨some 4, some 2, false⟩ caller function := by
  have root : limitedRoot.IsRoot := by
    intro outer hmem
    rw [List.mem_singleton.mp hmem]
    rfl
  have session : Session limitedRoot twiceNamed twiceNamedCalled.trace twiceNamedCalled :=
    Session.single 20 (.serve (.evaluate (.call "g" []))) (List.append_nil _).symm
  exact ⟨root, rfl, session, by decide +kernel, Session.within_limits root rfl session⟩

end GuardedScript

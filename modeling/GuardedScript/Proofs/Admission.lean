import GuardedScript.Evaluation.Call

/-!
# How a call is admitted

Before a body runs, the policy of the caller is asked whether the function may be run and which
policy the call runs under, and the context of the call is opened.  `Context.grantCall` is this part
of a call by itself.  What it can come to is said here once: a refusal, a failure to derive a
policy, or the new context.  The policies see the store as it is before the call, and the new
context takes the next place in it.
-/

set_option autoImplicit false

namespace GuardedScript

namespace Context

/-- The scope that a context opens at a place. -/
def scopeAt (context : Context) (id : Nat) (marker : String) : Context :=
  nested ⟨id, .scope marker, context.policy, context.options⟩ context

/-- The context in which a caller runs the body of a function that is called with a store. -/
def calleeAt (caller : Context) (store : Store) (function : Function) : Context :=
  nested ⟨store.size, .call function,
    (caller.derivation store function).success?.getD caller.policy, caller.options⟩ caller

section Fields

variable (context : Context) (id : Nat) (marker : String) (store : Store) (function : Function)

/-- A scope has its registry at the place where it is opened. -/
@[simp]
theorem id_scopeAt : (context.scopeAt id marker).id = id := rfl

/-- A scope is under the policy of the context around it. -/
@[simp]
theorem policy_scopeAt : (context.scopeAt id marker).policy = context.policy := rfl

/-- A scope is a scope. -/
@[simp]
theorem kind_scopeAt : (context.scopeAt id marker).kind = .scope marker := rfl

/-- A scope is not the context of a call. -/
@[simp]
theorem invoked?_scopeAt : (context.scopeAt id marker).invoked? = none := rfl

/-- A scope is inside of the context that opens it. -/
@[simp]
theorem ancestry_scopeAt :
    (context.scopeAt id marker).ancestry = context.scopeAt id marker :: context.ancestry := rfl

/-- A scope adds its kind to those around it. -/
@[simp]
theorem lineage_scopeAt :
    (context.scopeAt id marker).lineage = .scope marker :: context.lineage := rfl

/-- The context of a call has its registry at the next place. -/
@[simp]
theorem id_calleeAt : (context.calleeAt store function).id = store.size := rfl

/-- A call runs under the derived policy, or else under that of the caller. -/
@[simp]
theorem policy_calleeAt : (context.calleeAt store function).policy =
    (context.derivation store function).success?.getD context.policy := rfl

/-- The context of a call says which function it is for. -/
@[simp]
theorem kind_calleeAt : (context.calleeAt store function).kind = .call function := rfl

/-- The context of a call runs the function that is called. -/
@[simp]
theorem invoked?_calleeAt : (context.calleeAt store function).invoked? = some function := rfl

/-- A call is one deeper than its caller. -/
@[simp]
theorem depth_calleeAt : (context.calleeAt store function).depth = context.depth + 1 := rfl

/-- A call is inside of its caller. -/
@[simp]
theorem ancestry_calleeAt : (context.calleeAt store function).ancestry =
    context.calleeAt store function :: context.ancestry := rfl

/-- A call adds its kind to those around it. -/
@[simp]
theorem lineage_calleeAt :
    (context.calleeAt store function).lineage = .call function :: context.lineage := rfl

/-- A call is refused, or no policy can be derived for it, or it is granted. -/
theorem refused_or_underived_or_granted :
    (∃ reason, context.decision store (.runFunction function) = .failure reason) ∨
      (context.Permits store (.runFunction function) ∧
        ∃ reason, context.derivation store function = .failure reason) ∨
      context.Permits store (.runFunction function) ∧
        ∀ reason, context.derivation store function ≠ .failure reason := by
  rcases context.refused_or_permits store (.runFunction function) with refused | permits
  · exact .inl refused
  · by_cases underived : ∃ reason, context.derivation store function = .failure reason
    · exact .inr (.inl ⟨permits, underived⟩)
    · exact .inr (.inr ⟨permits, not_exists.mp underived⟩)

end Fields

/-- Asks for a call of a function, and opens and notes the context of the call if that is permitted
and a policy for it can be derived. -/
def grantCall (caller : Context) (lookup : Option Lookup) (function : Function) :
    Access (Except Failure Context) :=
  caller.guarded (.runFunction function) (fun denial => pure (.error denial)) do
    match ← caller.consultDerivation function with
    | .failure reason => return .error reason
    | derived =>
      let callee ← caller.openCall function (derived.success?.getD caller.policy)
      record (.entered lookup caller callee)
      return .ok callee

end Context

/-- The state in which the body of a function starts to run. -/
def State.called (state : State) (lookup : Option Lookup) (caller : Context)
    (function : Function) : State :=
  ((state.asked caller (.runFunction function)).log
    (.derived caller function (caller.derivation state.store function))).extend.log
      (.entered lookup caller (caller.calleeAt state.store function))

section Cases

variable {caller : Context} {lookup : Option Lookup} {function : Function} {state : State}
  {reason : Failure}

/-- A call that the policy of the caller refuses is not admitted, and nothing is done but to ask. -/
theorem grantCall_of_refused
    (refused : caller.decision state.store (.runFunction function) = .failure reason) :
    caller.grantCall lookup function state =
      (.error reason, state.asked caller (.runFunction function)) := by
  unfold Context.grantCall
  rw [Context.guarded_of_refused _ _ _ refused]
  rfl

/-- A call for which no policy can be derived is not admitted, and nothing is done but to ask. -/
theorem grantCall_of_underived (permits : caller.Permits state.store (.runFunction function))
    (underived : caller.derivation state.store function = .failure reason) :
    caller.grantCall lookup function state =
      (.error reason, (state.asked caller (.runFunction function)).log
        (.derived caller function (.failure reason))) := by
  unfold Context.grantCall
  rw [Context.guarded_of_permits _ _ _ permits, Access.bind_apply,
    Context.consultDerivation_apply, State.store_asked, underived]
  rfl

/-- Any other call is admitted, in a new context below the caller. -/
theorem grantCall_of_permits (permits : caller.Permits state.store (.runFunction function))
    (derived : ∀ reason, caller.derivation state.store function ≠ .failure reason) :
    caller.grantCall lookup function state =
      (.ok (caller.calleeAt state.store function), state.called lookup caller function) := by
  unfold Context.grantCall State.called Context.calleeAt
  rw [Context.guarded_of_permits _ _ _ permits, Access.bind_apply,
    Context.consultDerivation_apply, State.store_asked]
  cases hderived : caller.derivation state.store function with
  | failure reason => exact absurd hderived (derived reason)
  | success policy => rfl
  | empty => rfl

/-- To grant a call comes to one of three things. -/
theorem grantCall_cases {P : Except Failure Context × State → Prop}
    (refused : ∀ reason, caller.decision state.store (.runFunction function) = .failure reason →
      P (.error reason, state.asked caller (.runFunction function)))
    (underived : ∀ reason, caller.Permits state.store (.runFunction function) →
      caller.derivation state.store function = .failure reason →
      P (.error reason, (state.asked caller (.runFunction function)).log
        (.derived caller function (.failure reason))))
    (admitted : caller.Permits state.store (.runFunction function) →
      (∀ reason, caller.derivation state.store function ≠ .failure reason) →
      P (.ok (caller.calleeAt state.store function), state.called lookup caller function)) :
    P (caller.grantCall lookup function state) := by
  rcases caller.refused_or_underived_or_granted state.store function with
    ⟨reason, hrefused⟩ | ⟨permits, reason, hreason⟩ | ⟨permits, derived⟩
  · rw [grantCall_of_refused hrefused]
    exact refused reason hrefused
  · rw [grantCall_of_underived permits hreason]
    exact underived reason permits hreason
  · rw [grantCall_of_permits permits derived]
    exact admitted permits derived

/-- A call of a function is admitted first, and then its body runs. -/
theorem invokeObject_eq_grantCall (perform : Evaluator) (lookup : Option Lookup) (caller : Context)
    (function : Function) (bindings : Bindings) :
    invokeObject perform lookup caller function bindings =
      (liftM (caller.grantCall lookup function) >>= fun admitted =>
        match admitted with
        | .error reason => pure (.failure reason)
        | .ok callee => perform callee (.run function bindings)) := by
  funext state
  rw [Run.bind_apply_of_some (Run.lift_apply _ _)]
  unfold invokeObject
  rcases caller.refused_or_permits state.store (.runFunction function) with
    ⟨reason, refused⟩ | permits
  · rw [Context.run_guarded_of_refused _ _ _ refused, grantCall_of_refused refused]
  · rw [Context.run_guarded_of_permits _ _ _ permits, Run.bind_apply_of_some (Run.lift_apply _ _),
      Context.consultDerivation_apply, State.store_asked]
    cases hderived : caller.derivation state.store function with
    | failure reason => rw [grantCall_of_underived permits hderived]
    | success policy =>
      rw [grantCall_of_permits permits (fun reason heq => by rw [hderived] at heq; cases heq)]
      simp only [State.called, Context.calleeAt, hderived]
      rfl
    | empty =>
      rw [grantCall_of_permits permits (fun reason heq => by rw [hderived] at heq; cases heq)]
      simp only [State.called, Context.calleeAt, hderived]
      rfl

/-- A call that the policy of the caller refuses does nothing but ask. -/
theorem invokeObject_of_refused (perform : Evaluator) (lookup : Option Lookup) (bindings : Bindings)
    (state : State)
    (refused : caller.decision state.store (.runFunction function) = .failure reason) :
    invokeObject perform lookup caller function bindings state =
      (some (.failure reason), state.asked caller (.runFunction function)) := by
  rw [invokeObject_eq_grantCall, Run.bind_apply_of_some (Run.lift_apply _ _),
    grantCall_of_refused refused]
  rfl

/-- A call for which no policy can be derived does nothing but ask. -/
theorem invokeObject_of_underived (perform : Evaluator) (lookup : Option Lookup)
    (bindings : Bindings) (state : State)
    (permits : caller.Permits state.store (.runFunction function))
    (underived : caller.derivation state.store function = .failure reason) :
    invokeObject perform lookup caller function bindings state =
      (some (.failure reason), (state.asked caller (.runFunction function)).log
        (.derived caller function (.failure reason))) := by
  rw [invokeObject_eq_grantCall, Run.bind_apply_of_some (Run.lift_apply _ _),
    grantCall_of_underived permits underived]
  rfl

/-- Any other call runs the body in a new context below the caller. -/
theorem invokeObject_of_permits (perform : Evaluator) (lookup : Option Lookup)
    (bindings : Bindings) (state : State)
    (permits : caller.Permits state.store (.runFunction function))
    (derived : ∀ reason, caller.derivation state.store function ≠ .failure reason) :
    invokeObject perform lookup caller function bindings state =
      perform (caller.calleeAt state.store function) (.run function bindings)
        (state.called lookup caller function) := by
  rw [invokeObject_eq_grantCall, Run.bind_apply_of_some (Run.lift_apply _ _),
    grantCall_of_permits permits derived]

end Cases

end GuardedScript

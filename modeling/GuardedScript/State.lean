import GuardedScript.Context

/-!
# The state of a run

A run reads and changes a store, and keeps a trace of what it did: which policies were asked what
and how they answered, which scopes were opened, and which bodies were entered in which contexts.

`Access` is the type of operations that always end.  `Run` is the type of computations that are
given a bound on their nesting.  If the bound is too small they have no result, but the state is
that of the moment at which they stopped, so that the trace tells what an unfinished run has done.
-/

set_option autoImplicit false

namespace GuardedScript

/-- How a function was found: the key, the context whose registry holds it, and its place among the
functions under the key when the search came to that context. -/
structure Lookup where
  key : String
  scope : Context
  position : Nat

/-- What a run leaves in its trace. -/
inductive Event
  /-- A policy answered a check. -/
  | checked (context : Context) (check : Check) (answer : Decision)
  /-- A policy was asked for the policy of a call. -/
  | derived (context : Context) (function : Function) (answer : Outcome Policy)
  /-- A scope was opened. -/
  | opened (scope : Context)
  /-- A call context was opened on behalf of a caller; a function that was called by name comes with
  its look-up. -/
  | entered (lookup : Option Lookup) (caller context : Context)
  /-- The body of a function starts in a context. -/
  | began (context : Context) (function : Function)
  /-- A native body left a line for the host. -/
  | noted (line : String)

/-- The store, the identity of the next function, and the trace with its latest event first. -/
structure State where
  store : Store := {}
  nextFunction : Nat := 0
  trace : List Event := []

instance : Inhabited State := ⟨{}⟩

/-- The state with one more event in its trace. -/
def State.log (state : State) (event : Event) : State :=
  { state with trace := event :: state.trace }

/-- The state with one registry changed. -/
def State.update (state : State) (id : Nat) (change : Registry → Registry) : State :=
  { state with store := state.store.update id change }

/-- The state with one more registry. -/
def State.extend (state : State) : State :=
  { state with store := state.store.extend }

/-- The state after a question to the policy of a context. -/
def State.asked (state : State) (context : Context) (check : Check) : State :=
  state.log (.checked context check (context.decision state.store check))

/-- Operations on the state that always end. -/
abbrev Access := StateM State

/-- Computations on the state that may run out of fuel. -/
abbrev Run := OptionT Access

/-- Adds an event to the trace. -/
def record (event : Event) : Access Unit :=
  modify (fun state => state.log event)

/-- Takes an identity for a new function. -/
def freshFunction : Access Nat :=
  modifyGet (fun state =>
    (state.nextFunction, { state with nextFunction := state.nextFunction + 1 }))

/-- Adds an empty registry to the store and tells its place. -/
def freshRegistry : Access Nat :=
  modifyGet (fun state => (state.store.size, state.extend))

namespace Context

/-- Asks the policy of the context, which sees the store as it is. -/
def consult (context : Context) (check : Check) : Access Decision := do
  let answer := context.decision (← get).store check
  record (.checked context check answer)
  return answer

/-- Asks the policy of the context, and goes on in one way if it refuses and in another if not. -/
def guarded {m : Type → Type} [Monad m] [MonadLiftT Access m] {α : Type} (context : Context)
    (check : Check) (refused : Failure → m α) (permitted : m α) : m α := do
  match ← context.consult check with
  | .failure denial => refused denial
  | _ => permitted

/-- Asks the policy of the context for the policy of a call. -/
def consultDerivation (context : Context) (function : Function) : Access (Outcome Policy) := do
  let answer := context.derivation (← get).store function
  record (.derived context function answer)
  return answer

/-- The registry of the context. -/
def registry (context : Context) : Access Registry := do
  return (← get).store.registry context.id

/-- Changes the registry of the context. -/
def updateRegistry (context : Context) (change : Registry → Registry) : Access Unit :=
  modify (fun state => state.update context.id change)

/-- Opens a global context.  What it is not given it takes from the parent, if there is one. -/
def openRoot (parent : Option Context) (policy : Option Policy) (options : Option Options) :
    Access Context := do
  let id ← freshRegistry
  match parent with
  | some parent =>
    return nested ⟨id, .global, policy.getD parent.policy, options.getD parent.options⟩ parent
  | none => return root ⟨id, .global, policy.getD .permissive, options.getD {}⟩

/-- Opens a scope in a context, under the same policy. -/
def openScope (context : Context) (marker : String) : Access Context := do
  let id ← freshRegistry
  let scope := nested ⟨id, .scope marker, context.policy, context.options⟩ context
  record (.opened scope)
  return scope

/-- Opens the context of a call under a given policy. -/
def openCall (context : Context) (function : Function) (policy : Policy) : Access Context := do
  let id ← freshRegistry
  return nested ⟨id, .call function, policy, context.options⟩ context

end Context

/-! ### What the operations do to the state -/

namespace State

/-- An event goes to the front of the trace. -/
@[simp]
theorem trace_log (state : State) (event : Event) :
    (state.log event).trace = event :: state.trace := rfl

/-- An event leaves the store as it is. -/
@[simp]
theorem store_log (state : State) (event : Event) : (state.log event).store = state.store := rfl

/-- A question leaves itself and its answer in the trace. -/
@[simp]
theorem trace_asked (state : State) (context : Context) (check : Check) :
    (state.asked context check).trace =
      .checked context check (context.decision state.store check) :: state.trace := rfl

/-- A question leaves the store as it is. -/
@[simp]
theorem store_asked (state : State) (context : Context) (check : Check) :
    (state.asked context check).store = state.store := rfl

/-- A change of a registry leaves nothing in the trace. -/
@[simp]
theorem trace_update (state : State) (id : Nat) (change : Registry → Registry) :
    (state.update id change).trace = state.trace := rfl

/-- A change of a registry is one of the store. -/
@[simp]
theorem store_update (state : State) (id : Nat) (change : Registry → Registry) :
    (state.update id change).store = state.store.update id change := rfl

/-- A new registry leaves nothing in the trace. -/
@[simp]
theorem trace_extend (state : State) : state.extend.trace = state.trace := rfl

/-- A new registry is one more in the store. -/
@[simp]
theorem store_extend (state : State) : state.extend.store = state.store.extend := rfl

end State

namespace Context

/-- A policy derives from what it sees in the store, and its answer goes into the trace. -/
theorem consultDerivation_apply (context : Context) (function : Function) (state : State) :
    context.consultDerivation function state = (context.derivation state.store function,
      state.log (.derived context function (context.derivation state.store function))) := rfl

/-- A context reads its registry in the store. -/
theorem registry_apply (context : Context) (state : State) :
    context.registry state = (state.store.registry context.id, state) := rfl

section Guarded

variable {α : Type} {context : Context} {store : Store} {check : Check} {reason : Failure}

/-- What depends on a refusal goes the way of the refusal. -/
private theorem choose_of_refused {β : Type} (refused : Failure → β) (permitted : β)
    (h : context.decision store check = .failure reason) :
    (match context.decision store check with
      | .failure denial => refused denial
      | _ => permitted) = refused reason := by
  rw [h]

/-- What depends on a permission goes the way of the permission. -/
private theorem choose_of_permits {β : Type} (refused : Failure → β) (permitted : β)
    (h : context.Permits store check) :
    (match context.decision store check with
      | .failure denial => refused denial
      | _ => permitted) = permitted := by
  split
  · next reason heq => exact absurd heq (h reason)
  · rfl

/-- An operation that the policy refuses goes on as it does after a refusal. -/
theorem guarded_of_refused (refused : Failure → Access α) (permitted : Access α) (state : State)
    (h : context.decision state.store check = .failure reason) :
    context.guarded check refused permitted state = refused reason (state.asked context check) :=
  congrFun (choose_of_refused refused permitted h) (state.asked context check)

/-- An operation that the policy does not refuse goes on as it does with permission. -/
theorem guarded_of_permits (refused : Failure → Access α) (permitted : Access α) (state : State)
    (h : context.Permits state.store check) :
    context.guarded check refused permitted state = permitted (state.asked context check) :=
  congrFun (choose_of_permits refused permitted h) (state.asked context check)

/-- A computation that the policy refuses goes on as it does after a refusal. -/
theorem run_guarded_of_refused (refused : Failure → Run α) (permitted : Run α) (state : State)
    (h : context.decision state.store check = .failure reason) :
    context.guarded check refused permitted state = refused reason (state.asked context check) :=
  congrFun (choose_of_refused refused permitted h) (state.asked context check)

/-- A computation that the policy does not refuse goes on as it does with permission. -/
theorem run_guarded_of_permits (refused : Failure → Run α) (permitted : Run α) (state : State)
    (h : context.Permits state.store check) :
    context.guarded check refused permitted state = permitted (state.asked context check) :=
  congrFun (choose_of_permits refused permitted h) (state.asked context check)

end Guarded

end Context

namespace Access

variable {α β : Type}

/-- A result alone leaves the state as it is. -/
theorem pure_apply (a : α) (state : State) : (pure a : Access α) state = (a, state) := rfl

/-- A sequence of operations goes on from where the first one ended. -/
theorem bind_apply (access : Access α) (next : α → Access β) (state : State) :
    (access >>= next) state = next (access state).1 (access state).2 := rfl

end Access

namespace Run

variable {α β : Type}

/-- A result alone leaves the state of a run as it is. -/
theorem pure_apply (a : α) (state : State) : (pure a : Run α) state = (some a, state) := rfl

/-- An operation that always ends has its result in a run. -/
theorem lift_apply (access : Access α) (state : State) :
    (liftM access : Run α) state = (some (access state).1, (access state).2) := rfl

/-- A sequence of operations that always end may be run as one. -/
theorem lift_bind (access : Access α) (next : α → Access β) :
    (liftM (access >>= next) : Run β) = liftM access >>= fun a => liftM (next a) := rfl

/-- A sequence goes on from where its first part ended, or stops where that stopped. -/
theorem bind_apply (run : Run α) (next : α → Run β) (state : State) :
    (run >>= next) state =
      match run state with
      | (some a, reached) => next a reached
      | (none, reached) => (none, reached) := by
  -- only what the first part does in this state matters
  have hbind : (run >>= next) state = ((fun _ => run state : Run α) >>= next) state := rfl
  rw [hbind]
  rcases run state with ⟨_ | a, reached⟩ <;> rfl

/-- A sequence whose first part has a result goes on with it. -/
theorem bind_apply_of_some {run : Run α} {next : α → Run β} {state reached : State} {a : α}
    (h : run state = (some a, reached)) : (run >>= next) state = next a reached := by
  rw [bind_apply, h]

/-- A sequence whose first part has no result has none. -/
theorem fst_bind_of_none {run : Run α} {next : α → Run β} {state : State}
    (h : (run state).1 = none) : ((run >>= next) state).1 = none := by
  rw [bind_apply]
  split
  · next heq => rw [heq] at h; cases h
  · rfl

end Run

end GuardedScript

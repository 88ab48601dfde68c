import GuardedScript.Proofs.Descent
import GuardedScript.Proofs.Mediation

/-!
# What contexts pass on

A host starts from one context and makes one move after the other, each in a context that it has
come to so far: it serves requests, calls functions, opens scopes, writes variables and registers
functions.  All along contexts only come into being below others.  So a property that a scope
takes over from the context around it, and the context of a call from a caller that was not refused,
holds of all contexts of the session if it holds of the first one (`Session.within`).

The store counts only as far as policies look at it when calls are made.
-/

set_option autoImplicit false

namespace GuardedScript

/-! ### Properties of contexts -/

/-- A property of contexts that goes on to the scopes in them and to the calls that they make, at
all places from a certain one on. -/
structure Inherited (lower : Nat) (Inv : Context → Prop) : Prop where
  scope : ∀ {context : Context} {id : Nat} (marker : String), lower ≤ id → Inv context →
    Inv (context.scopeAt id marker)
  call : ∀ {context : Context} {store : Store} {function : Function}, lower ≤ store.size →
    Inv context → context.Permits store (.runFunction function) →
    (∀ reason, context.derivation store function ≠ .failure reason) →
    Inv (context.calleeAt store function)

/-- What holds of all contexts is passed on. -/
theorem inherited_any : Inherited 0 (fun _ => True) where
  scope := fun _ _ _ => trivial
  call := fun _ _ _ _ => trivial

/-- Two properties that are passed on are passed on together. -/
theorem Inherited.and {lower : Nat} {Inv Also : Context → Prop} (inherited : Inherited lower Inv)
    (also : Inherited lower Also) :
    Inherited lower (fun context => Inv context ∧ Also context) where
  scope := fun marker placed h => ⟨inherited.scope marker placed h.1, also.scope marker placed h.2⟩
  call := fun placed h permits derived =>
    ⟨inherited.call placed h.1 permits derived, also.call placed h.2 permits derived⟩

/-- Contexts below a depth only lead to contexts below it. -/
theorem inherited_depth (depth : Nat) : Inherited 0 (fun context => depth < context.depth) where
  scope := fun _ _ h => Nat.lt_succ_of_lt h
  call := fun _ h _ _ => Nat.lt_succ_of_lt h

/-- No other policy is derived for calls, so that they run under this one. -/
def Policy.Persists (policy : Policy) : Prop :=
  ∀ site function, policy.derive site function = .empty

/-- A policy that derives no other one is passed on. -/
theorem inherited_policy {policy : Policy} (persists : policy.Persists) (lower : Nat) :
    Inherited lower (fun context => context.policy = policy) where
  scope := fun _ _ h => h
  call := by
    intro context store function _ h _ _
    have hderived : context.derivation store function = .empty := by
      rw [Context.derivation, h]
      exact persists _ _
    rw [Context.policy_calleeAt, hderived]
    exact h

/-- The contexts of an event have a property, and a call in it was not refused. -/
def Event.Within (Inv : Context → Prop) : Event → Prop
  | .opened scope => Inv scope
  | .entered _ caller callee => Inv caller ∧ Inv callee ∧ ∃ store function,
    callee = caller.calleeAt store function ∧ caller.Permits store (.runFunction function) ∧
      ∀ reason, caller.derivation store function ≠ .failure reason
  | .began context function => Inv context ∧ context.kind = .call function
  | _ => True

/-- Between two states the trace was continued by events within a property. -/
def Leaves (Inv : Context → Prop) (state final : State) : Prop :=
  ∃ events, final.trace = events ++ state.trace ∧ ∀ event ∈ events, event.Within Inv

section Leaves

variable {Inv : Context → Prop}

/-- Nothing is left where the trace stays the same. -/
theorem leaves_of_trace_eq {state final : State} (h : final.trace = state.trace) :
    Leaves Inv state final :=
  ⟨[], h, fun _ hmem => absurd hmem List.not_mem_nil⟩

/-- Doing nothing leaves nothing. -/
theorem leaves_refl (state : State) : Leaves Inv state state :=
  leaves_of_trace_eq rfl

/-- What two parts of a run leave, both together do. -/
theorem leaves_trans {first second third : State} (hfirst : Leaves Inv first second)
    (hsecond : Leaves Inv second third) : Leaves Inv first third := by
  obtain ⟨older, holder, hwithin⟩ := hfirst
  obtain ⟨newer, hnewer, hwithin'⟩ := hsecond
  refine ⟨newer ++ older, by rw [hnewer, holder, List.append_assoc], ?_⟩
  intro event hmem
  rcases List.mem_append.mp hmem with hnew | hold
  · exact hwithin' event hnew
  · exact hwithin event hold

/-- An event within the property is left within it. -/
theorem leaves_log (state : State) (event : Event) (h : event.Within Inv) :
    Leaves Inv state (state.log event) := by
  refine ⟨[event], rfl, ?_⟩
  intro other hmem
  rw [List.mem_singleton.mp hmem]
  exact h

/-- Questions are within every property. -/
theorem passage_leaves : Passage (fun _ => True) (Leaves Inv) where
  refl := leaves_refl
  trans := leaves_trans
  asked := fun state _ _ _ => leaves_log state _ trivial

/-- A write leaves only questions. -/
theorem set_leaves (context : Context) (key : String) (global : Bool) (value : Value)
    (state : State) : Leaves Inv state (context.set key global value state).2 :=
  Context.set_passage passage_leaves (fun _ _ _ state => leaves_log state _ trivial)
    (fun _ _ _ _ state => leaves_log state _ trivial)
    (fun _ _ _ _ => leaves_of_trace_eq rfl) state

/-- A registration leaves only questions. -/
theorem register_leaves (context : Context) (name : String) (function : Function) (global : Bool)
    (state : State) : Leaves Inv state (context.register name function global state).2 :=
  Context.register_passage passage_leaves (fun _ _ => trivial)
    (fun _ _ _ _ _ => leaves_of_trace_eq rfl) state

variable (inherited : Inherited 0 Inv)

include inherited

/-- A scope has the property of the context that opens it. -/
theorem openScope_leaves {context : Context} (h : Inv context) (marker : String) (state : State) :
    Inv (context.openScope marker state).1 ∧
      Leaves Inv state (context.openScope marker state).2 := by
  have hscope : Inv (context.scopeAt state.store.size marker) :=
    inherited.scope marker (Nat.zero_le _) h
  exact ⟨hscope, leaves_log state.extend (.opened _) hscope⟩

/-- Passing a property on, as a judgement on all programs in contexts with the property. -/
@[reducible]
def inheritance : Discipline .any where
  Index := Unit
  Holds run P := Along (fun _ => True) (Leaves Inv) (run ()) P
  Hosts := Inv
  Asks _ := True
  asks_around := fun _ _ _ => trivial
  holds_pure := along_pure leaves_refl
  holds_bind := along_bind (R := Leaves Inv) (fun _ _ _ => leaves_trans)
  holds_consult := fun _ _ _ =>
    along_lift (fun state _ => ⟨leaves_log state _ trivial, trivial, state.store, rfl⟩)
  holds_note := fun _ =>
    along_lift (fun state _ => ⟨leaves_log state _ trivial, trivial, trivial⟩)
  holds_openScope := by
    intro context marker h
    refine along_lift (fun state _ => ?_)
    obtain ⟨hscope, hleaves⟩ := openScope_leaves inherited h marker state
    exact ⟨hleaves, trivial, hscope⟩
  holds_require := fun key _ => along_lift (fun state _ =>
    ⟨Context.require_passage passage_leaves key _ (fun _ _ => trivial) state, trivial,
      fun _ _ => trivial⟩)
  holds_set := by
    intro context key global value _ _ _
    exact along_lift (fun state _ => ⟨set_leaves context key global value state, trivial, trivial⟩)
  holds_register := by
    intro context name function global _ _ _
    exact along_lift (fun state _ =>
      ⟨register_leaves context name function global state, trivial, trivial⟩)

/-- Looking functions up leaves nothing. -/
theorem holds_overloads_of_inherited (scope : Context) (key : String) :
    (inheritance inherited).Holds (fun _ => liftM (scope.overloads key))
      (fun functions => ∀ function ∈ functions, function.Abides .any) :=
  along_lift (fun state _ =>
    ⟨leaves_refl state, trivial, fun function _ => function.abides_any⟩)

/-- Passing a property on is a judgement that goes through calls. -/
theorem inheritance_descends : (inheritance inherited).Descends where
  fails := along_failure leaves_refl
  overloads := fun _ _ scope => holds_overloads_of_inherited inherited scope _
  admits := by
    intro caller lookup function h
    refine along_grantCall (R := Leaves Inv) (fun _ _ _ => leaves_trans)
      (fun state _ => ⟨leaves_log state _ trivial, trivial⟩)
      (fun state _ _ => ⟨leaves_log state _ trivial, trivial⟩) (fun state _ permits derived => ?_)
    have hcallee : Inv (caller.calleeAt state.store function) :=
      inherited.call (Nat.zero_le _) h permits derived
    refine ⟨leaves_log state.extend _ ?_, trivial, hcallee⟩
    exact ⟨h, hcallee, state.store, function, rfl, permits, derived⟩
  begins := by
    intro context function h hkind
    exact along_lift (fun state _ =>
      ⟨leaves_log state (.began context function) ⟨h, hkind⟩, trivial, trivial⟩)

/-- A request in a context with the property leaves events within it. -/
theorem serve_leaves (fuel : Nat) {context : Context} (h : Inv context) (request : Request)
    (state : State) :
    Leaves Inv state (request.serve (perform fuel) context state).2 := by
  have hserve := (inheritance_descends inherited).holds_serve fuel h request.abides_any
  exact (hserve state trivial).1

/-- Calls by a context with the property are judged well. -/
theorem holds_invokeObject_of_inherited (fuel : Nat) {caller : Context} (h : Inv caller)
    (lookup : Option Lookup) (function : Function) (bindings : Bindings) :
    (inheritance inherited).Holds
      (fun _ => invokeObject (perform fuel) lookup caller function bindings) Terms.any.Answers := by
  have hdescends := inheritance_descends inherited
  obtain ⟨bodies, -⟩ := hdescends.perform_holds fuel
  have hbinds : Terms.any.Binds bindings := ⟨fun _ _ => trivial, fun _ _ => trivial⟩
  exact hdescends.holds_call bodies h lookup function.abides_any hbinds

/-- A call by a context with the property leaves events within it. -/
theorem invokeObject_leaves (fuel : Nat) {caller : Context} (h : Inv caller) (function : Function)
    (bindings : Bindings) (state : State) :
    Leaves Inv state (invokeObject (perform fuel) none caller function bindings state).2 :=
  (holds_invokeObject_of_inherited inherited fuel h none function bindings state trivial).1

/-- It is the caller that counts, not the context from which the function is looked for. -/
theorem invokeFrom_leaves (fuel : Nat) {caller : Context} (h : Inv caller) (origin : Context)
    (name : String) (arguments : List (Argument Value)) (state : State) :
    Leaves Inv state (invokeFrom (perform fuel) origin caller name arguments state).2 := by
  have hinvoke : (inheritance inherited).Holds
      (fun _ => invokeFrom (perform fuel) origin caller name arguments) Terms.any.Answers := by
    refine Discipline.holds_guarded trivial rfl
      (fun _ => (inheritance inherited).holds_pure (Terms.any.answers_failure _))
      (fun _ asked =>
        Discipline.holds_search ?_ (fun _ _ => trivial) ?_ (fun _ _ => trivial) asked {})
    · intro lookup function bindings _ _
      exact holds_invokeObject_of_inherited inherited fuel h lookup function bindings
    · intro scope _ _
      exact holds_overloads_of_inherited inherited scope _
  exact (hinvoke state trivial).1

end Leaves

/-! ### Sessions -/

/-- What a host does in a context. -/
inductive Move
  | serve (request : Request)
  /-- Calls a function by its name, which is looked for from any context. -/
  | search (origin : Context) (name : String) (arguments : List (Argument Value))
  /-- Calls a function itself, with its arguments bound. -/
  | call (function : Function) (bindings : Bindings)
  | scope (marker : String)
  | set (key : String) (global : Bool) (value : Value)
  | register (name : String) (function : Function) (global : Bool)

/-- The state after a move; one that runs out of fuel stops where it is. -/
def Move.result (fuel : Nat) (context : Context) (state : State) : Move → State
  | serve request => (request.serve (perform fuel) context state).2
  | search origin name arguments =>
    (invokeFrom (perform fuel) origin context name arguments state).2
  | call function bindings => (invokeObject (perform fuel) none context function bindings state).2
  | scope marker => (context.openScope marker state).2
  | set key global value => (context.set key global value state).2
  | register name function global => (context.register name function global state).2

/-- A context that a host has come to: the one it started in, or one that was opened since. -/
def Reached (start : Context) (events : List Event) (context : Context) : Prop :=
  context = start ∨ ∃ event ∈ events, event.created? = some context

/-- A host makes moves one after the other, each in a context that it has come to.  The events are
those of all moves, the latest one first. -/
inductive Session (start : Context) (state : State) : List Event → State → Prop
  | start : Session start state [] state
  | move {older newer : List Event} {middle : State} {context : Context} (fuel : Nat) (move : Move)
      (session : Session start state older middle) (reached : Reached start older context)
      (trace : (move.result fuel context middle).trace = newer ++ middle.trace) :
      Session start state (newer ++ older) (move.result fuel context middle)

/-- One move is a session. -/
theorem Session.single {start : Context} {state : State} {events : List Event} (fuel : Nat)
    (move : Move) (trace : (move.result fuel start state).trace = events ++ state.trace) :
    Session start state events (move.result fuel start state) := by
  have hmove := Session.move fuel move .start (.inl rfl) trace
  rwa [List.append_nil] at hmove

section Session

variable {Inv : Context → Prop} {start context : Context} {state final : State}
  {events : List Event}

/-- A context that was reached has the property. -/
theorem inv_of_reached (h : Inv start) (within : ∀ event ∈ events, event.Within Inv)
    (reached : Reached start events context) : Inv context := by
  rcases reached with rfl | ⟨event, hmem, hcreated⟩
  · exact h
  · have hevent := within event hmem
    cases event with
    | opened scope =>
      cases hcreated
      exact hevent
    | entered lookup caller callee =>
      cases hcreated
      exact hevent.2.1
    | checked context check answer => cases hcreated
    | derived context function answer => cases hcreated
    | began context function => cases hcreated
    | noted line => cases hcreated

/-- Every move in a context with the property leaves events within it. -/
theorem Move.leaves (inherited : Inherited 0 Inv) (h : Inv context) (fuel : Nat) (state : State)
    (move : Move) : Leaves Inv state (move.result fuel context state) := by
  cases move with
  | serve request => exact serve_leaves inherited fuel h request state
  | search origin name arguments =>
    exact invokeFrom_leaves inherited fuel h origin name arguments state
  | call function bindings => exact invokeObject_leaves inherited fuel h function bindings state
  | scope marker => exact (openScope_leaves inherited h marker state).2
  | set key global value => exact set_leaves context key global value state
  | register name function global => exact register_leaves context name function global state

/-- A property that contexts pass on holds in all events of a session. -/
theorem Session.within (inherited : Inherited 0 Inv) (h : Inv start)
    (session : Session start state events final) : ∀ event ∈ events, event.Within Inv := by
  induction session with
  | start => exact fun _ hmem => absurd hmem List.not_mem_nil
  | @move older newer middle context fuel move _ reached htrace ih =>
    have hcontext : Inv context := inv_of_reached h ih reached
    obtain ⟨events, hevents, hwithin⟩ := move.leaves inherited hcontext fuel middle
    have hnewer : newer = events := List.append_cancel_right (htrace.symm.trans hevents)
    intro event hmem
    rcases List.mem_append.mp hmem with hnew | hold
    · exact hwithin event (hnewer ▸ hnew)
    · exact ih event hold

/-- Every context that a session comes to has the property of the first one. -/
theorem Session.reached (inherited : Inherited 0 Inv) (h : Inv start)
    (session : Session start state events final) (reached : Reached start events context) :
    Inv context :=
  inv_of_reached h (session.within inherited h) reached

end Session

end GuardedScript

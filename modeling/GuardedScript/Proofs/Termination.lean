import GuardedScript.Proofs.Discipline

/-!
# Limits make programs end

A call budget and a limit on the depth bound how deeply calls nest: a context has some number of
nested calls left, a scope in it has no more, and the context of a call has fewer.  So there is no
infinite descent through calls.  Between two calls a program only goes down into the parts of
values, into nested blocks and along native bodies, as long as what is stored and what has been
evaluated is not evaluated again.  That is what the terms `Terms.settled` ask for.  They ask it of
the arguments of a call that a host makes as well, since these become variables of the body: with an
argument that needs evaluation a call may go on forever under any limit
(`not_forall_invoke_terminates`).

The proof is one induction on the number of nested calls that are left, and in it one on the size of
values and statements.  The evaluator itself is gone through in `Discipline`.
-/

set_option autoImplicit false

namespace GuardedScript

/-- An array of values that need no evaluation needs none. -/
theorem Value.needsEvaluation_ofList {items : List Value}
    (h : ∀ item ∈ items, item.needsEvaluation = false) :
    (Value.ofList items).needsEvaluation = false := by
  have hany : Value.anyNeedsEvaluation items = false := by
    induction items with
    | nil => rfl
    | cons item items ih =>
      obtain ⟨hfirst, hrest⟩ := List.forall_mem_cons.mp h
      simp [Value.anyNeedsEvaluation, hfirst, ih hrest]
  simp only [Value.ofList, Value.needsEvaluation]
  split
  · rfl
  · next hstability =>
    -- only an array that is marked dynamic is of runtime kind
    simp only [Value.stability, Stability.classify, Bool.false_eq_true, if_false] at hstability
    split at hstability <;> cases hstability
  · exact hany

/-- Nothing that needs evaluation is stored, passed or returned. -/
def Terms.settled : Terms where
  Keeps value := value.needsEvaluation = false
  Writes _ := True
  keeps_of_fixed := fun h => h
  keeps_ofList := Value.needsEvaluation_ofList
  writes_local := trivial

/-! ### Parts are smaller -/

/-- The parts of a value are smaller. -/
theorem Value.sizeOf_lt_of_mem_parts {value part : Value} (h : part ∈ value.parts) :
    sizeOf part < sizeOf value := by
  have hargument : ∀ {arguments : List (Argument Value)} {inner : Value},
      inner ∈ arguments.map Argument.value → sizeOf inner < sizeOf arguments := by
    intro arguments inner hinner
    obtain ⟨⟨name, found⟩, hmem, rfl⟩ := List.mem_map.mp hinner
    have hlist := List.sizeOf_lt_of_mem hmem
    simp only [Argument.mk.sizeOf_spec] at hlist
    show sizeOf found < sizeOf arguments
    omega
  cases value with
  | array dynamic items =>
    have hlist : sizeOf part < sizeOf items := List.sizeOf_lt_of_mem h
    simp only [Value.array.sizeOf_spec]
    omega
  | property receiver name =>
    obtain rfl := List.mem_singleton.mp h
    simp only [Value.property.sizeOf_spec]
    omega
  | call name arguments =>
    have hlist := hargument h
    simp only [Value.call.sizeOf_spec]
    omega
  | memberCall receiver name arguments =>
    simp only [Value.memberCall.sizeOf_spec]
    rcases List.mem_cons.mp h with rfl | hmem
    · omega
    · have hlist := hargument hmem
      omega
  | expression start operations =>
    simp only [Value.expression.sizeOf_spec]
    rcases List.mem_cons.mp h with rfl | hmem
    · omega
    · obtain ⟨⟨operator, operand⟩, hoperation, rfl⟩ := List.mem_map.mp hmem
      have hlist := List.sizeOf_lt_of_mem hoperation
      simp only [Prod.mk.sizeOf_spec] at hlist
      show sizeOf operand < _
      omega
  | _ => exact absurd h List.not_mem_nil

/-- The statements of a block are smaller. -/
theorem Action.sizeOf_lt_of_mem_block {block : Block} {inner : Action} (h : inner ∈ block.actions) :
    sizeOf inner < sizeOf (Action.block block) := by
  obtain ⟨marker, actions⟩ := block
  have hlist : sizeOf inner < sizeOf actions := List.sizeOf_lt_of_mem h
  simp only [Action.block.sizeOf_spec, Block.mk.sizeOf_spec]
  omega

/-! ### Computations that end -/

/-- From every settled state the runs with enough fuel all end, in one and the same way, with a
result that has a property. -/
def Completes {α : Type} (run : Nat → Run α) (P : α → Prop) : Prop :=
  ∀ state : State, state.Abides .settled → ∃ a final bound,
    (∀ fuel, bound ≤ fuel → run fuel state = (some a, final)) ∧ final.Abides .settled ∧ P a

section Completes

variable {α β : Type} {P : α → Prop}

/-- An operation ends. -/
theorem completes_lift {access : Access α}
    (h : ∀ state : State, state.Abides .settled →
      (access state).2.Abides .settled ∧ P (access state).1) :
    Completes (fun _ => liftM access) P := by
  intro state hstate
  obtain ⟨hfinal, hresult⟩ := h state hstate
  exact ⟨(access state).1, (access state).2, 0, fun _ _ => Run.lift_apply access state, hfinal,
    hresult⟩

/-- A result that is there already has ended. -/
theorem completes_pure {a : α} (h : P a) : Completes (fun _ => pure a) P := by
  intro state hstate
  exact ⟨a, state, 0, fun _ _ => Run.pure_apply a state, hstate, h⟩

/-- Two computations that end do so one after the other. -/
theorem completes_bind {run : Nat → Run α} {next : Nat → α → Run β} {Q : β → Prop}
    (hrun : Completes run P) (hnext : ∀ a, P a → Completes (fun fuel => next fuel a) Q) :
    Completes (fun fuel => run fuel >>= next fuel) Q := by
  intro state hstate
  obtain ⟨a, middle, first, hfirst, hmiddle, ha⟩ := hrun state hstate
  obtain ⟨b, final, second, hsecond, hfinal, hb⟩ := hnext a ha middle hmiddle
  refine ⟨b, final, max first second, fun fuel hfuel => ?_, hfinal, hb⟩
  have hleft : run fuel state = (some a, middle) := hfirst fuel (by omega)
  have hright : next fuel a middle = (some b, final) := hsecond fuel (by omega)
  show (run fuel >>= next fuel) state = (some b, final)
  rw [Run.bind_apply, hleft]
  exact hright

/-- A task ends if one step of it does. -/
theorem completes_perform {context : Context} {task : Task} {P : Outcome Value → Prop}
    (h : Completes (fun fuel => step (perform fuel) context task) P) :
    Completes (fun fuel => perform fuel context task) P := by
  intro state hstate
  obtain ⟨outcome, final, bound, hbound, hfinal, houtcome⟩ := h state hstate
  refine ⟨outcome, final, bound + 1, fun fuel hfuel => ?_, hfinal, houtcome⟩
  obtain ⟨fuel, rfl⟩ : ∃ smaller, fuel = smaller + 1 := ⟨fuel - 1, by omega⟩
  exact hbound fuel (by omega)

end Completes

/-! ### Limits -/

/-- At most so many further calls nest in the context. -/
inductive Context.Limited (calls : Nat) (context : Context) : Prop
  | budget {remaining : Nat} (policy : context.policy = .budget remaining)
      (left : remaining ≤ calls)
  | depth {limits : Limits} {limit : Nat} (policy : context.policy = .limiter limits)
      (hlimit : limits.maxDepth = some limit) (left : limit ≤ context.depth + calls)

namespace Context.Limited

variable {calls : Nat} {context : Context}

/-- A scope has as many calls left as the context around it. -/
theorem scope (h : context.Limited calls) (id : Nat) (marker : String) :
    (context.scopeAt id marker).Limited calls := by
  cases h with
  | budget policy left => exact .budget policy left
  | depth policy hlimit left =>
    refine .depth policy hlimit ?_
    show _ ≤ context.depth + 1 + calls
    omega

/-- A call that is not refused uses up one of the calls that are left. -/
theorem call (h : context.Limited calls) {store : Store} {function : Function}
    (permits : context.Permits store (.runFunction function)) :
    ∃ fewer < calls, (context.calleeAt store function).Limited fewer := by
  unfold calleeAt
  cases h with
  | @budget remaining policy left =>
    have hpositive : remaining ≠ 0 := by
      intro hzero
      refine permits (.callBudgetExhausted function.name) ?_
      simp [decision, policy, Policy.answer, hzero]
    have hderived : context.derivation store function = .success (.budget (remaining - 1)) := by
      simp [derivation, policy, Policy.derive]
    rw [hderived]
    exact ⟨calls - 1, by omega, .budget rfl (by omega)⟩
  | @depth limits limit policy hlimit left =>
    have hdeep : context.depth < limit := by
      rcases Nat.lt_or_ge context.depth limit with hlt | hreached
      · exact hlt
      · obtain ⟨reason, hreason⟩ :
            ∃ reason, context.decision store (.runFunction function) = .failure reason := by
          simp only [decision, policy, Policy.answer, Policy.limitDecision, Policy.depthRefusal?,
            hlimit, depth_site, if_pos hreached]
          exact ⟨_, rfl⟩
        exact absurd hreason (permits reason)
    have hderived : context.derivation store function = .empty := by
      simp [derivation, policy, Policy.derive]
    rw [hderived]
    refine ⟨calls - 1, by omega, .depth policy hlimit ?_⟩
    show limit ≤ context.depth + 1 + (calls - 1)
    omega

end Context.Limited

/-! ### The induction -/

/-- Ending, as a judgement on the programs in contexts with so many nested calls left. -/
@[reducible]
def termination (calls : Nat) : Discipline .settled where
  Index := Nat
  Holds := Completes
  Hosts context := context.Limited calls
  Asks _ := True
  asks_around := fun _ _ _ => trivial
  holds_pure := completes_pure
  holds_bind := completes_bind
  holds_consult := fun _ _ _ => completes_lift (fun state h => ⟨h, state.store, rfl⟩)
  holds_note := fun _ => completes_lift (fun _ h => ⟨h, trivial⟩)
  holds_openScope := fun _ hosts =>
    completes_lift (fun _ h => ⟨h.extend.log _, hosts.scope _ _⟩)
  holds_require := fun key _ =>
    completes_lift (fun _ h => ⟨Context.require_abides h key, Context.answers_require h key⟩)
  holds_set := by
    intro context key global value _ _ keeps
    exact completes_lift (fun _ h => ⟨Context.set_abides h key global keeps, trivial⟩)
  holds_register := by
    intro context name function global _ _ abides
    exact completes_lift (fun _ h => ⟨Context.register_abides h name abides global, trivial⟩)

/-- The bodies of functions end in contexts with so many nested calls left. -/
def BodiesComplete (calls : Nat) : Prop :=
  ∀ {context : Context} {function : Function} {bindings : Bindings}, context.Limited calls →
    function.Abides .settled → Terms.settled.Binds bindings →
    Completes (fun fuel => perform fuel context (.run function bindings)) Terms.settled.Answers

section Induction

variable {calls : Nat}

/-- To grant a call ends, and leaves fewer nested calls to the context of the call. -/
theorem completes_grantCall {context : Context} (limited : context.Limited calls)
    (lookup : Option Lookup) (function : Function) :
    Completes (fun _ => liftM (context.grantCall lookup function))
      (fun admitted => ∀ callee, admitted = .ok callee → ∃ less < calls, callee.Limited less) := by
  refine completes_lift (fun state h => ?_)
  have hasked : (state.asked context (.runFunction function)).Abides .settled := h.log _
  refine grantCall_cases
    (P := fun result => result.2.Abides .settled ∧
      ∀ callee, result.1 = .ok callee → ∃ less < calls, callee.Limited less)
    (fun _ _ => ⟨hasked, fun callee heq => by cases heq⟩)
    (fun _ _ _ => ⟨hasked.log _, fun callee heq => by cases heq⟩) (fun permits _ => ?_)
  refine ⟨(hasked.log _).extend.log _, fun callee heq => ?_⟩
  cases heq
  exact limited.call permits

/-- Calls by name end if the bodies do in contexts with fewer nested calls left. -/
theorem serves_of_fewer (fewer : ∀ less < calls, BodiesComplete less) :
    (termination calls).Serves perform where
  invoke := by
    intro context name arguments hosts passes
    refine Discipline.holds_invoke hosts name ?_ ?_ passes
    · intro scope _ _
      refine completes_lift (fun state h => ?_)
      rw [Context.overloads_apply]
      exact ⟨h, fun function hmem => (h scope.id).overloads hmem⟩
    · intro lookup function bindings abides binds
      refine Discipline.holds_invokeObject (completes_grantCall hosts lookup function) ?_
      rintro callee ⟨less, hless, hcallee⟩
      exact fewer less hless hcallee abides binds
  again := by
    intro context value _ keeps
    refine Discipline.holds_resolve (fun hneeds => ?_)
    -- what is kept does not need to be evaluated
    exact absurd (hneeds.symm.trans keeps) (by decide)

variable (serves : (termination calls).Serves perform) {context : Context}
  (limited : context.Limited calls)

include serves limited

/-- A value is evaluated after its parts, which are smaller. -/
theorem completes_evaluate (value : Value) :
    Completes (fun fuel => perform fuel context (.evaluate value)) Terms.settled.Answers := by
  refine completes_perform (Discipline.holds_evaluateStep serves limited (fun part hmem => ?_))
  have hsmaller : sizeOf part < sizeOf value := Value.sizeOf_lt_of_mem_parts hmem
  exact Discipline.holds_resolve (fun _ => completes_evaluate part)
termination_by sizeOf value

/-- A value is resolved. -/
theorem completes_resolve (value : Value) :
    (termination calls).Holds (fun fuel => resolve (perform fuel) context value)
      Terms.settled.Answers :=
  Discipline.holds_resolve (fun _ => completes_evaluate serves limited value)

omit limited in
/-- A statement may run smaller ones, in a scope with as many calls left. -/
theorem completes_act {context : Context} (limited : context.Limited calls) {action : Action}
    (abides : action.Abides .settled) :
    Completes (fun fuel => perform fuel context (.act action)) Terms.settled.Answers := by
  induction hsize : sizeOf action using Nat.strongRecOn generalizing context action with
  | ind size ih =>
    have hstep : (termination calls).Holds (fun fuel => actStep (perform fuel) context action)
        Terms.settled.Answers := by
      refine Discipline.holds_actStep limited (completes_resolve serves limited) abides ?_
      rintro block rfl scope hscope inner hmem
      have hsmaller : sizeOf inner < size := hsize ▸ Action.sizeOf_lt_of_mem_block hmem
      cases abides with
      | block actions => exact ih _ hsmaller hscope (actions inner hmem) rfl
    exact completes_perform hstep

omit limited in
/-- All tasks but bodies end if calls by name do. -/
theorem performs_of_serves : (termination calls).Performs perform where
  evaluate := fun value hosts => completes_evaluate serves hosts value
  act := fun hosts abides => completes_act serves hosts abides

end Induction

/-- Bodies end, however many nested calls are left. -/
theorem bodiesComplete (calls : Nat) : BodiesComplete calls := by
  induction calls using Nat.strongRecOn with
  | ind calls fewer =>
    intro context function bindings limited abides binds
    have serves := serves_of_fewer fewer
    refine completes_perform (completes_bind (P := fun _ => True)
      (completes_lift (fun _ h => ⟨h.log _, trivial⟩)) (fun _ _ => ?_))
    exact Discipline.holds_runBody serves limited (completes_resolve serves limited)
      (fun _ h => completes_act serves limited h) abides binds

/-- The policy of the context limits how deeply calls nest: it is a call budget, or a limiter with a
limit on the depth. -/
def Context.LimitsCalls (context : Context) : Prop :=
  (∃ remaining, context.policy = .budget remaining) ∨
    ∃ limits limit, context.policy = .limiter limits ∧ limits.maxDepth = some limit

/-- A context that limits calls has some number of them left. -/
theorem Context.LimitsCalls.limited {context : Context} (h : context.LimitsCalls) :
    ∃ calls, context.Limited calls := by
  rcases h with ⟨remaining, policy⟩ | ⟨limits, limit, policy, hlimit⟩
  · exact ⟨remaining, .budget policy (Nat.le_refl _)⟩
  · exact ⟨limit, .depth policy hlimit (Nat.le_add_left _ _)⟩

/-- In a context that limits calls every request ends: with enough fuel the outcome and the final
state are always the same.  Nothing that needs evaluation may be stored at the start, be a default,
or be stored or returned by a native body.  The arguments of a call are stored as variables of its
body, so this goes for those that are passed as they are, too. -/
theorem Request.serve_terminates {context : Context} (limits : context.LimitsCalls)
    {request : Request} (hrequest : request.Abides .settled) {state : State}
    (hstate : state.Abides .settled) :
    ∃ bound outcome final, ∀ fuel, bound ≤ fuel →
      request.serve (perform fuel) context state = (some outcome, final) := by
  obtain ⟨calls, limited⟩ := limits.limited
  have serves : (termination calls).Serves perform :=
    serves_of_fewer (fun less _ => bodiesComplete less)
  have hserve := Discipline.holds_serve serves (performs_of_serves serves) limited hrequest
  obtain ⟨outcome, final, bound, hbound, -, -⟩ := hserve state hstate
  exact ⟨bound, outcome, final, hbound⟩

/-- A function that does nothing but call itself. -/
def endless : Function :=
  ⟨0, "f", [], false, .script ⟨defaultMarker, [.evaluate (.call "f" [])]⟩⟩

/-- A script that evaluates one value abides, whatever the value is. -/
theorem abides_of_evaluate (marker : String) (value : Value) :
    (Body.script ⟨marker, [.evaluate value]⟩).Abides .settled := by
  refine .script (fun action hmem => ?_)
  rw [List.mem_singleton.mp hmem]
  exact .evaluate value

/-- A global context with one function abides if the function does. -/
theorem abides_of_function {function : Function} (h : function.Abides .settled) :
    State.Abides .settled { store := ⟨#[⟨∅, (∅ : Table _).insert "f" [function]⟩]⟩ } := by
  intro id
  cases id with
  | zero =>
    refine ⟨Table.all_empty, Table.all_empty.insert "f" (fun other hmem => ?_)⟩
    rw [List.mem_singleton.mp hmem]
    exact h
  | succ id => exact Registry.abides_empty

/-- Even a function that calls itself forever comes to an end under a call budget. -/
theorem serve_terminates_endless :
    ∃ bound outcome final, ∀ fuel, bound ≤ fuel →
      (Request.evaluate (.call "f" [])).serve (perform fuel)
        (.root ⟨0, .global, .budget 3, {}⟩)
        { store := ⟨#[⟨∅, (∅ : Table _).insert "f" [endless]⟩]⟩ } = (some outcome, final) := by
  have hrequest : (Request.evaluate (.call "f" [])).Abides .settled := trivial
  have hendless : endless.Abides .settled :=
    .intro (fun parameter hmem => absurd hmem List.not_mem_nil) (abides_of_evaluate _ _)
  exact Request.serve_terminates (.inl ⟨3, rfl⟩) hrequest (abides_of_function hendless)

/-- What is stored must not need evaluation: under whatever limits, a variable that is bound to a
property of itself is read again and again, without any call. -/
theorem evaluate_own_property_diverges {context : Context} {key name : String} {state : State}
    (permits : ∀ store, context.Permits store (.getVariable key))
    (bound : (state.store.registry context.id).locals.get? key =
      some (.property (.reference key) name)) (fuel : Nat) :
    (perform fuel context (.evaluate (.property (.reference key) name)) state).1 = none := by
  induction fuel generalizing state with
  | zero => rfl
  | succ fuel ih =>
    show (evaluateProperty (perform fuel) context (.reference key) name state).1 = none
    cases fuel with
    | zero => rfl
    | succ fuel =>
      -- reading the variable gives the property read itself, which is then resolved in its turn
      have hread : resolve (perform (fuel + 1)) context (.reference key) state =
          (some (.success (.property (.reference key) name)),
            state.asked context (.getVariable key)) := by
        show (some (context.require key state).1, (context.require key state).2) = _
        rw [Context.require_of_bound (permits _) bound]
      unfold evaluateProperty
      rw [Run.bind_apply_of_some hread]
      refine Run.fst_bind_of_none (Run.fst_bind_of_none ?_)
      exact ih bound

/-- A function that reads a property of its argument. -/
def propertyReader : Function :=
  ⟨0, "f", [.mandatory "x" (.lateBound "Object")], false,
    .script ⟨defaultMarker, [.evaluate (.property (.reference "x") "p")]⟩⟩

/-- A global context that grants calls which do not nest. -/
def oneCall : Context :=
  .root ⟨0, .global, .budget 1, {}⟩

/-- The global context has the function, and nothing else. -/
def reading : State where
  store := ⟨#[⟨∅, (∅ : Table _).insert "f" [propertyReader]⟩]⟩

/-- An argument is stored as a variable of the body: a call budget does not help against one that
needs evaluation and speaks of that variable. -/
theorem invoke_unsettled_argument_diverges (fuel : Nat) :
    ((Request.invoke "f" [.positional (.property (.reference "x") "p")]).serve (perform fuel)
      oneCall reading).1 = none := by
  have hasked : ∀ store, oneCall.Permits store (.askForFunction (Text.key "f")) :=
    fun _ reason h => by cases h
  have htried : ∀ store, oneCall.Permits store (.tryFunction (Text.key "f") propertyReader) :=
    fun _ reason h => by cases h
  have hrun : ∀ store, oneCall.Permits store (.runFunction propertyReader) :=
    fun _ reason h => by cases h
  have hderived : ∀ store reason, oneCall.derivation store propertyReader ≠ .failure reason :=
    fun _ reason h => by cases h
  have hbound : propertyReader.bind? [.positional (.property (.reference "x") "p")] =
      some ⟨(∅ : Table _).insert "x" (.property (.reference "x") "p"), []⟩ := rfl
  -- the search calls the function
  show (invokeFrom _ _ _ _ _ _).1 = none
  unfold invokeFrom
  rw [Context.run_guarded_of_permits _ _ _ (hasked _), search_eq,
    Run.bind_apply_of_some (Run.lift_apply _ _)]
  refine Run.fst_bind_of_none ?_
  show (tryOverloads _ _ _ _ _ [propertyReader] _ _ _).1 = none
  unfold tryOverloads
  rw [Context.run_guarded_of_permits _ _ _ (htried _), hbound]
  refine Run.fst_bind_of_none ?_
  rw [invokeObject_of_permits _ _ _ _ (hrun _) (hderived _)]
  -- the body binds its variable and reads it
  cases fuel with
  | zero => rfl
  | succ fuel =>
    show (runStep (perform fuel) _ propertyReader _ _).1 = none
    unfold runStep
    rw [Run.bind_apply_of_some (Run.lift_apply _ _)]
    show (runScript (perform fuel) _ false _ _ _ _).1 = none
    unfold runScript
    rw [Run.bind_apply_of_some (Run.lift_apply _ _)]
    show (runActions (perform fuel) _ [.evaluate _] _ _).1 = none
    unfold runActions
    refine Run.fst_bind_of_none ?_
    cases fuel with
    | zero => rfl
    | succ fuel =>
      refine Run.fst_bind_of_none ?_
      exact evaluate_own_property_diverges (fun _ reason h => by cases h) rfl fuel

/-- Limits alone do not make all calls of a host end: the function reads a property of an argument
that is this very read, and does so forever, although nothing that is stored needs evaluation. -/
theorem not_forall_invoke_terminates :
    ¬ ∀ (context : Context) (name : String) (arguments : List (Argument Value)) (state : State),
      context.LimitsCalls → state.Abides .settled →
      ∃ bound outcome final, ∀ fuel, bound ≤ fuel →
        (Request.invoke name arguments).serve (perform fuel) context state =
          (some outcome, final) := by
  intro hforall
  have hreader : propertyReader.Abides .settled := by
    refine .intro (fun parameter hmem => ?_) (abides_of_evaluate _ _)
    rw [List.mem_singleton.mp hmem]
    exact fun value heq => by cases heq
  obtain ⟨bound, outcome, final, hends⟩ :=
    hforall oneCall "f" [.positional (.property (.reference "x") "p")] reading (.inl ⟨1, rfl⟩)
      (abides_of_function hreader)
  have hdiverges := invoke_unsettled_argument_diverges bound
  rw [hends bound (Nat.le_refl _)] at hdiverges
  cases hdiverges

end GuardedScript

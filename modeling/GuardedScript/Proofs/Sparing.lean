import GuardedScript.Proofs.Agreement

/-!
# Runs that spare a key

Two runs start in states that differ in the order of the functions under one key, and in nothing
else.  As long as the programs neither register a function under the key nor look for one, and no
policy looks at this order, they cannot tell the states apart: `KeepsPace`.  Whether they did is
read off the trace of one run, since both leave the same events up to the first that touches the
key.  A look-up or a registration that a policy refuses does not count.

What is said here is about bodies.  A depth tells them from the caller, who may well be looking for
the key.  The judgement goes through the whole evaluator (`bodiesSpare`).  A search for the key
itself is no exception: it has touched the key before it comes to the functions.
-/

set_option autoImplicit false

namespace GuardedScript

/-- A veil over the functions under one key. -/
def Veil.ofKey (key : String) : Veil where
  locals _ _ := False
  functions _ other := other = key

/-- Two states differ at most in the order of the functions under a key. -/
structure State.Reordered (key : String) (left right : State) : Prop where
  alike : left.Alike (.ofKey key) right
  perm : ∀ id,
    ((left.store.registry id).overloads key).Perm ((right.store.registry id).overloads key)

/-- Whether a policy lets a function be registered under a key, or be looked for under it in a
context beyond a depth. -/
def Event.touches (key : String) (depth : Nat) : Event → Bool
  | .checked context (.askForFunction other) answer =>
    other == key && decide (depth < context.depth) && !answer.isFailure
  | .checked _ (.registerFunction other _ _) answer => other == key && !answer.isFailure
  | _ => false

/-- Between two states the key was touched. -/
def Touched (key : String) (depth : Nat) (state final : State) : Prop :=
  ∃ events, final.trace = events ++ state.trace ∧ ∃ event ∈ events, event.touches key depth = true

/-- Between two states the key was not touched. -/
def Spares (key : String) (depth : Nat) (state final : State) : Prop :=
  ∃ events, final.trace = events ++ state.trace ∧ ∀ event ∈ events, event.touches key depth = false

/-- The trace was continued, and the functions under a key are as they were unless it was
touched. -/
structure Continues (key : String) (depth : Nat) (state final : State) : Prop where
  suffix : state.trace <:+ final.trace
  kept : Touched key depth state final ∨ state.Kept key final

section Touched

variable {key : String} {depth : Nat} {first second third state final : State}

/-- What was touched in the second part of a run was touched in it. -/
theorem Touched.of_suffix (h : Touched key depth second third)
    (before : first.trace <:+ second.trace) : Touched key depth first third := by
  obtain ⟨events, hevents, event, hmem, htouches⟩ := h
  obtain ⟨older, holder⟩ := before
  refine ⟨events ++ older, ?_, event, List.mem_append_left _ hmem, htouches⟩
  rw [hevents, ← holder, List.append_assoc]

/-- What was touched in the first part of a run was touched in it. -/
theorem Touched.of_prefix (h : Touched key depth first second)
    (after : second.trace <:+ third.trace) : Touched key depth first third := by
  obtain ⟨events, hevents, event, hmem, htouches⟩ := h
  obtain ⟨newer, hnewer⟩ := after
  refine ⟨newer ++ events, ?_, event, List.mem_append_right _ hmem, htouches⟩
  rw [← hnewer, hevents, List.append_assoc]

/-- A key that is spared is not touched. -/
theorem Spares.not_touched (h : Spares key depth state final) :
    ¬ Touched key depth state final := by
  rintro ⟨events, hevents, event, hmem, htouches⟩
  obtain ⟨others, hothers, hspared⟩ := h
  obtain rfl := List.append_cancel_right (hevents.symm.trans hothers)
  exact Bool.eq_false_iff.mp (hspared event hmem) htouches

/-- The same events touch the key in both of two runs. -/
theorem Touched.of_abreast {R : State → State → Prop} {lower : Nat}
    {left right left' right' : State} (h : Touched key depth right right')
    (abreast : Abreast R lower left right left' right') : Touched key depth left left' := by
  obtain ⟨events, hevents, event, hmem, htouches⟩ := h
  obtain ⟨others, hleft, hright⟩ := abreast.events
  obtain rfl := List.append_cancel_right (hevents.symm.trans hright)
  exact ⟨events, hleft, event, hmem, htouches⟩

/-- A policy that permits does not fail. -/
theorem isFailure_of_permits {context : Context} {store : Store} {check : Check}
    (permits : context.Permits store check) :
    (context.decision store check).isFailure = false := by
  cases hdecision : context.decision store check with
  | failure reason => exact absurd hdecision (permits reason)
  | success _ => rfl
  | empty => rfl

/-- A question that touches the key is where it is touched. -/
theorem touched_asked {context : Context} {check : Check} (state : State)
    (h : (Event.checked context check (context.decision state.store check)).touches key depth =
      true) : Touched key depth state (state.asked context check) :=
  ⟨[_], rfl, _, List.mem_singleton_self _, h⟩

end Touched

/-! ### What the operations leave under the key -/

section Continues

variable {key : String} {depth : Nat} {first second third : State}

/-- Doing nothing continues. -/
theorem Continues.refl (state : State) : Continues key depth state state :=
  ⟨List.suffix_rfl, .inr (.refl state)⟩

/-- Two parts of a run that continue do so together. -/
theorem Continues.trans (hfirst : Continues key depth first second)
    (hsecond : Continues key depth second third) : Continues key depth first third := by
  refine ⟨hfirst.suffix.trans hsecond.suffix, ?_⟩
  rcases hfirst.kept with touched | kept
  · exact .inl (touched.of_prefix hsecond.suffix)
  · rcases hsecond.kept with touched | kept'
    · exact .inl (touched.of_suffix hfirst.suffix)
    · exact .inr (kept.trans kept')

/-- To note an event continues. -/
theorem continues_log (state : State) (event : Event) :
    Continues key depth state (state.log event) :=
  ⟨List.suffix_cons _ _, .inr (.refl state)⟩

/-- A new registry continues. -/
theorem continues_extend (state : State) : Continues key depth state state.extend :=
  ⟨List.suffix_rfl, .inr state.kept_extend⟩

/-- To ask continues. -/
theorem passage_continues : Passage (fun _ => True) (Continues key depth) where
  refl := Continues.refl
  trans := Continues.trans
  asked := fun state _ _ _ => continues_log state _

/-- A write continues, and leaves all functions as they are. -/
theorem set_continues (context : Context) (name : String) (global : Bool) (value : Value)
    (state : State) :
    Continues key depth state (context.set name global value state).2 := by
  have hupdate : ∀ (state : State) (id : Nat) {change : Registry → Registry},
      (∀ registry : Registry, (change registry).functions = registry.functions) →
      Continues key depth state (state.update id change) := by
    intro state id change h
    exact ⟨List.suffix_rfl, .inr (state.kept_update id (fun registry => by rw [h]))⟩
  exact Context.set_passage passage_continues (fun _ _ _ state => continues_log state _)
    (fun _ _ _ _ state => (continues_log state _).trans (hupdate _ _ (fun _ => rfl)))
    (fun _ _ _ state => hupdate state _ (fun _ => rfl)) state

/-- A registration under another key changes nothing under this one, and one under this key is
seen. -/
theorem enlist_continues (context : Context) (other : String) (function : Function) (global : Bool)
    (attempt : Option (Outcome Unit)) (state : State) :
    Continues key depth state (context.enlist other function global attempt state).2 := by
  unfold Context.enlist
  rcases context.refused_or_permits state.store (.registerFunction other function global) with
    ⟨reason, refused⟩ | permits
  · rw [Context.guarded_of_refused _ _ _ refused]
    exact continues_log state _
  · rw [Context.guarded_of_permits _ _ _ permits]
    refine ⟨List.suffix_cons _ _, ?_⟩
    by_cases hkey : other = key
    · subst hkey
      refine .inl (touched_asked state ?_)
      simp [Event.touches, isFailure_of_permits permits]
    · exact .inr (State.kept_addFunction _ context.id function hkey)

/-- A registration continues. -/
theorem register_continues (context : Context) (name : String) (function : Function) (global : Bool)
    (state : State) :
    Continues key depth state (context.register name function global state).2 := by
  induction context generalizing name state with
  | root frame => exact enlist_continues _ _ function global none state
  | nested frame parent ih =>
    unfold Context.register
    cases global with
    | false => exact enlist_continues _ _ function false none state
    | true =>
      refine Context.bind_passage passage_continues ?_ (fun attempt state => ?_) state
      · exact Context.guarded_passage passage_continues trivial rfl (fun _ => Continues.refl)
          (ih (Text.key name))
      · split
        · exact .refl state
        · exact enlist_continues _ _ function true _ state

/-- Continuing, as a judgement on all programs in all contexts. -/
@[reducible]
def continuing (key : String) (depth : Nat) : Discipline .any where
  Index := Unit
  Holds run P := Along (fun _ => True) (Continues key depth) (run ()) P
  Hosts _ := True
  Asks _ := True
  asks_around := fun _ _ _ => trivial
  holds_pure := along_pure Continues.refl
  holds_bind := along_bind (R := Continues key depth) (fun _ _ _ => Continues.trans)
  holds_consult := fun _ _ _ =>
    along_lift (fun state _ => ⟨continues_log state _, trivial, state.store, rfl⟩)
  holds_note := fun _ => along_lift (fun state _ => ⟨continues_log state _, trivial, trivial⟩)
  holds_openScope := fun _ _ => along_lift (fun state _ =>
    ⟨(continues_extend state).trans (continues_log _ _), trivial, trivial⟩)
  holds_require := fun name _ => along_lift (fun state _ =>
    ⟨Context.require_passage passage_continues name _ (fun _ _ => trivial) state, trivial,
      fun _ _ => trivial⟩)
  holds_set := by
    intro context name global value _ _ _
    exact along_lift (fun state _ =>
      ⟨set_continues context name global value state, trivial, trivial⟩)
  holds_register := by
    intro context name function global _ _ _
    exact along_lift (fun state _ =>
      ⟨register_continues context name function global state, trivial, trivial⟩)

end Continues

/-! ### Two runs -/

section Reordered

variable {key : String} {left right : State}

/-- A change by which the functions under the key stay the same up to their order in registries does
so in states. -/
theorem State.Reordered.perm_update (h : left.Reordered key right) (id : Nat)
    {change : Registry → Registry}
    (hchange : ∀ {first second : Registry},
      (first.overloads key).Perm (second.overloads key) →
      ((change first).overloads key).Perm ((change second).overloads key)) (place : Nat) :
    (((left.update id change).store.registry place).overloads key).Perm
      (((right.update id change).store.registry place).overloads key) := by
  simp only [State.store_update, Store.registry_update_eq, ← h.alike.size]
  split
  · exact hchange (h.perm place)
  · exact h.perm place

/-- States that differ in an order only stay so. -/
theorem reordered_likeness (key : String) : Likeness (State.Reordered key) where
  size := fun h => h.alike.size
  log := fun event h => ⟨h.alike.log event, h.perm⟩
  extend := by
    intro left right h
    refine ⟨h.alike.extend, fun id => ?_⟩
    simp only [State.store_extend, Store.registry_extend]
    exact h.perm id
  setVariable := fun id name value h =>
    ⟨(alike_likeness _).setVariable id name value h.alike, h.perm_update id (fun perm => perm)⟩
  removeVariable := fun id name h =>
    ⟨(alike_likeness _).removeVariable id name h.alike, h.perm_update id (fun perm => perm)⟩
  addFunction := by
    intro left right id other function h
    refine ⟨(alike_likeness _).addFunction id other function h.alike, h.perm_update id ?_⟩
    intro first second perm
    rw [Registry.overloads_addFunction, Registry.overloads_addFunction]
    exact perm.append_right _

/-- An event in the first trace counts for nothing. -/
theorem State.Reordered.log_left (h : left.Reordered key right) (event : Event) :
    (left.log event).Reordered key right :=
  ⟨⟨h.alike.size, h.alike.nextFunction, h.alike.registries⟩, h.perm⟩

/-- An event in the second trace counts for nothing. -/
theorem State.Reordered.log_right (h : left.Reordered key right) (event : Event) :
    left.Reordered key (right.log event) :=
  ⟨⟨h.alike.size, h.alike.nextFunction, h.alike.registries⟩, h.perm⟩

end Reordered

/-- From states that differ in the order of the functions under a key, a run touches the key, or it
has the same result in both and leads to such states. -/
def KeepsPace (key : String) (depth : Nat) {α : Type} (run : Run α) : Prop :=
  ∀ left right : State, left.Reordered key right →
    Touched key depth left (run left).2 ∨
      ((run left).1 = (run right).1 ∧
        Abreast (State.Reordered key) 0 left right (run left).2 (run right).2)

section KeepsPace

variable {key : String} {depth : Nat} {α β : Type} {P : α → Prop} {Q : β → Prop}

/-- An operation that agrees keeps pace. -/
theorem keepsPace_lift {access : Access α} (h : Agrees (State.Reordered key) 0 access) :
    KeepsPace key depth (liftM access) := by
  intro left right reordered
  obtain ⟨hsame, habreast⟩ := h left right (Nat.zero_le _) reordered
  exact .inr ⟨congrArg some hsame, habreast⟩

/-- A result that is there already keeps pace. -/
theorem keepsPace_pure (a : α) : KeepsPace key depth (pure a) :=
  fun _ _ reordered => .inr ⟨rfl, .refl (Nat.zero_le _) reordered⟩

/-- To give no result at all keeps pace. -/
theorem keepsPace_failure : KeepsPace key depth (failure : Run α) :=
  fun _ _ reordered => .inr ⟨rfl, .refl (Nat.zero_le _) reordered⟩

/-- Two computations that keep pace do so one after the other.  If the first part touches the key
then so does the whole, as the second only continues the trace. -/
theorem keepsPace_bind {run : Run α} {next : α → Run β} (hrun : KeepsPace key depth run)
    (hP : Along (fun _ => True) (Continues key depth) run P)
    (hcontinues : ∀ a, P a → Along (fun _ => True) (Continues key depth) (next a) Q)
    (hnext : ∀ a, P a → KeepsPace key depth (next a)) : KeepsPace key depth (run >>= next) := by
  intro left right reordered
  obtain ⟨hcontinued, -, hresult⟩ := hP left trivial
  have hfirst := hrun left right reordered
  rw [Run.bind_apply, Run.bind_apply]
  cases hleft : run left with
  | mk found left' =>
    cases hright : run right with
    | mk found' right' =>
      rw [hleft] at hfirst hcontinued hresult
      rw [hright] at hfirst
      cases found with
      | none =>
        refine hfirst.imp id ?_
        rintro ⟨hsame, habreast⟩
        obtain rfl : none = found' := hsame
        exact ⟨rfl, habreast⟩
      | some a =>
        have ha := hresult a rfl
        rcases hfirst with touched | ⟨hsame, habreast⟩
        · exact .inl (touched.of_prefix (hcontinues a ha left' trivial).1.suffix)
        · obtain rfl : some a = found' := hsame
          rcases hnext a ha left' right' habreast.related with touched | ⟨hsame, habreast'⟩
          · exact .inl (touched.of_suffix hcontinued.suffix)
          · exact .inr ⟨hsame, habreast.trans habreast'⟩

end KeepsPace

/-- Contexts beyond a depth, the policies of which and around which do not look at the order of the
functions under a key. -/
structure Beyond (key : String) (depth : Nat) (context : Context) : Prop where
  deeper : depth < context.depth
  ignores : context.Ignores (State.Reordered key)

/-- Keeping pace, as a judgement on all programs in contexts beyond a depth. -/
@[reducible]
def sparing (key : String) (depth : Nat) : Discipline .any where
  Index := Unit
  Holds run P := (continuing key depth).Holds run P ∧ KeepsPace key depth (run ())
  Hosts := Beyond key depth
  Asks context := context.Ignores (State.Reordered key)
  asks_around := fun hosts _ hscope => hosts.ignores.of_mem hscope
  holds_pure := fun h => ⟨(continuing key depth).holds_pure h, keepsPace_pure _⟩
  holds_bind := fun hrun hnext =>
    ⟨(continuing key depth).holds_bind hrun.1 (fun a ha => (hnext a ha).1),
      keepsPace_bind hrun.2 hrun.1 (fun a ha => (hnext a ha).1) (fun a ha => (hnext a ha).2)⟩
  holds_consult := fun check ignores quiet =>
    ⟨(continuing key depth).holds_consult check trivial quiet,
      keepsPace_lift (agrees_consult (reordered_likeness key) ignores check)⟩
  holds_note := fun line =>
    ⟨(continuing key depth).holds_note line,
      keepsPace_lift (agrees_record (reordered_likeness key) _)⟩
  holds_openScope := by
    intro context marker hosts
    refine ⟨along_lift (fun state _ => ?_),
      keepsPace_lift (agrees_openScope (reordered_likeness key) context marker)⟩
    exact ⟨(continues_extend state).trans (continues_log _ _), trivial,
      Nat.lt_succ_of_lt hosts.deeper, hosts.ignores.scopeAt _ marker⟩
  holds_require := by
    intro context name hosts
    refine ⟨(continuing key depth).holds_require name trivial, keepsPace_lift ?_⟩
    have hget : Agrees (State.Reordered key) 0 (context.get name) :=
      agrees_get_of_visible (reordered_likeness key) hosts.ignores
        (fun _ _ _ _ reordered => reordered.alike.locals_eq id)
    exact agrees_bind hget (fun _ => agrees_pure _)
  holds_set := by
    intro context name global value hosts writes keeps
    exact ⟨(continuing key depth).holds_set name trivial writes keeps,
      keepsPace_lift (agrees_set (reordered_likeness key) hosts.ignores name global value)⟩
  holds_register := by
    intro context name function global hosts writes abides
    exact ⟨(continuing key depth).holds_register name trivial writes abides,
      keepsPace_lift (agrees_register (reordered_likeness key) hosts.ignores name function global)⟩

section Sparing

variable {key : String} {depth : Nat}

/-- Calls keep pace if bodies do. -/
theorem sparing_calls : (sparing key depth).Calls where
  fails := ⟨along_failure Continues.refl, keepsPace_failure⟩
  admits := by
    intro caller lookup function hosts
    refine ⟨along_grantCall (R := Continues key depth) (fun _ _ _ => Continues.trans)
      (fun state _ => ⟨continues_log state _, trivial⟩)
      (fun state _ _ => ⟨continues_log state _, trivial⟩) (fun state _ _ _ => ?_),
      keepsPace_lift (agrees_grantCall (reordered_likeness key) hosts.ignores lookup function)⟩
    exact ⟨(continues_extend state).trans (continues_log _ _), trivial,
      Nat.lt_succ_of_lt hosts.deeper, hosts.ignores.calleeAt state.store function⟩
  begins := fun _ _ =>
    ⟨along_lift (fun state _ => ⟨continues_log state _, trivial, trivial⟩),
      keepsPace_lift (agrees_record (reordered_likeness key) _)⟩

/-- To look up functions continues. -/
theorem holds_overloads_of_continuing (scope : Context) (name : String) :
    (continuing key depth).Holds (fun _ => liftM (scope.overloads name))
      (fun functions => ∀ function ∈ functions, function.Abides .any) :=
  along_lift (fun state _ => ⟨.refl state, trivial, fun function _ => function.abides_any⟩)

/-- A call by the key itself touches it, unless it is refused and does nothing. -/
theorem sparing_invoke_of_key {perform : Evaluator} {context : Context} {name : String}
    {arguments : List (Argument Value)}
    (hcall : ∀ (lookup : Option Lookup) (function : Function) (bindings : Bindings),
      function.Abides .any → Terms.any.Binds bindings →
      (sparing (Text.key name) depth).Holds
        (fun _ => invokeObject perform lookup context function bindings) Terms.any.Answers)
    (hosts : Beyond (Text.key name) depth context) (passes : Terms.any.Passes arguments) :
    (sparing (Text.key name) depth).Holds (fun _ => invoke perform context name arguments)
      Terms.any.Answers := by
  have hcontinues : ∀ (lookup : Option Lookup) (function : Function) (bindings : Bindings),
      function.Abides .any → Terms.any.Binds bindings →
      (continuing (Text.key name) depth).Holds
        (fun _ => invokeObject perform lookup context function bindings) Terms.any.Answers :=
    fun lookup function bindings abides binds => (hcall lookup function bindings abides binds).1
  have hoverloads : ∀ (scope : Context) (store : Store),
      scope.Permits store (.askForFunction (Text.key name)) →
      (continuing (Text.key name) depth).Holds (fun _ => liftM (scope.overloads (Text.key name)))
        (fun functions => ∀ function ∈ functions, function.Abides .any) :=
    fun scope _ _ => holds_overloads_of_continuing scope _
  refine ⟨Discipline.holds_invoke trivial name hoverloads hcontinues passes, ?_⟩
  intro left right reordered
  rcases context.refused_or_permits left.store (.askForFunction (Text.key name)) with
    ⟨reason, refused⟩ | asked
  · have refused' := (hosts.ignores.decision_eq reordered _).symm.trans refused
    have habreast := (agrees_consult (reordered_likeness _) hosts.ignores
      (.askForFunction (Text.key name)) left right (Nat.zero_le _) reordered).2
    refine .inr ?_
    simp only [invoke, invokeFrom]
    rw [Context.run_guarded_of_refused _ _ _ refused, Context.run_guarded_of_refused _ _ _ refused']
    exact ⟨rfl, habreast⟩
  · refine .inl ?_
    have hsearch : (continuing (Text.key name) depth).Holds
        (fun _ => search perform context (Text.key name) arguments {} context)
        Terms.any.Answers :=
      Discipline.holds_search hcontinues passes hoverloads (fun _ _ => trivial) asked {}
    have htouched : Touched (Text.key name) depth left
        (left.asked context (.askForFunction (Text.key name))) := by
      refine touched_asked left ?_
      simp [Event.touches, hosts.deeper, isFailure_of_permits asked]
    simp only [invoke, invokeFrom]
    rw [Context.run_guarded_of_permits _ _ _ asked]
    exact htouched.of_prefix (hsearch _ trivial).1.suffix

/-- Calls by name keep pace if the tasks below them do. -/
theorem sparing_serves {perform : Evaluator} (bodies : (sparing key depth).Bodies perform)
    (performs : (sparing key depth).Performs (fun _ => perform)) :
    (sparing key depth).Serves (fun _ => perform) where
  invoke := by
    intro context name arguments hosts passes
    have hcall : ∀ (lookup : Option Lookup) (function : Function) (bindings : Bindings),
        function.Abides .any → Terms.any.Binds bindings →
        (sparing key depth).Holds
          (fun _ => invokeObject perform lookup context function bindings) Terms.any.Answers :=
      fun lookup _ _ abides binds => sparing_calls.holds_call bodies hosts lookup abides binds
    by_cases hkey : Text.key name = key
    · subst hkey
      exact sparing_invoke_of_key hcall hosts passes
    · refine Discipline.holds_invoke hosts name (fun scope _ _ => ?_) hcall passes
      exact ⟨holds_overloads_of_continuing scope _,
        keepsPace_lift (agrees_overloads (fun reordered => reordered.alike.overloads_eq hkey))⟩
  again := fun hosts _ => performs.resolve hosts _

/-- Bodies that do not touch the key keep pace, and leave what is under it as it is. -/
theorem bodiesSpare (key : String) (depth fuel : Nat) :
    (sparing key depth).Bodies (perform fuel) :=
  (sparing_calls.perform_holds sparing_serves fuel).1

end Sparing

end GuardedScript

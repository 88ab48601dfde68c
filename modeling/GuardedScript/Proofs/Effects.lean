import GuardedScript.Context.Functions
import GuardedScript.Proofs.CanonicalKeys

/-!
# What the operations of contexts do to the state

Reading, writing and registering ask the policies of a context and of those around it, and change
registries, and do nothing else.  A `Passage` is a relation between earlier and later states that a
question keeps; an operation keeps it if the changes that it may make do.  A variable that is read
was bound in some context on the way outward, a function that is registered under one key leaves the
other keys alone, and no operation takes a function away again.
-/

set_option autoImplicit false

namespace GuardedScript

/-- The value that is to be stored if the policy permits. -/
def Check.offered? : Check → Option Value
  | setVariable _ _ value _ => some value
  | _ => none

/-- A relation between earlier and later states that questions to the policies of some contexts
keep. Writes are looked at apart, together with the questions that come before them. -/
structure Passage (Asks : Context → Prop) (R : State → State → Prop) : Prop where
  refl : ∀ state, R state state
  trans : ∀ {first second third}, R first second → R second third → R first third
  asked : ∀ {context} state check, Asks context → check.offered? = none →
    R state (state.asked context check)

namespace Context

/-- A context is the first of its ancestry. -/
theorem mem_ancestry_self (context : Context) : context ∈ context.ancestry := by
  cases context with
  | root frame => exact List.mem_cons_self ..
  | nested frame parent => exact List.mem_cons_self ..

/-- The ancestry of the parent is a part of that of the context. -/
theorem mem_ancestry_nested {frame : Frame} {parent scope : Context} (h : scope ∈ parent.ancestry) :
    scope ∈ (nested frame parent).ancestry :=
  List.mem_cons_of_mem _ h

/-- What is around a context is around those inside of it. -/
theorem mem_ancestry_trans {inner middle outer : Context} (h : middle ∈ inner.ancestry)
    (houter : outer ∈ middle.ancestry) : outer ∈ inner.ancestry := by
  induction inner with
  | root frame =>
    rw [List.mem_singleton.mp h] at houter
    exact houter
  | nested frame parent ih =>
    rcases List.mem_cons.mp h with rfl | hparent
    · exact houter
    · exact mem_ancestry_nested (ih hparent)

/-- The parent of a context around another one is around that as well. -/
theorem parent_mem_ancestry {context parent : Context} {frame : Frame}
    (h : nested frame parent ∈ context.ancestry) : parent ∈ context.ancestry :=
  mem_ancestry_trans h (mem_ancestry_nested (mem_ancestry_self parent))

section Passage

variable {Asks : Context → Prop} {R : State → State → Prop} (passage : Passage Asks R)

include passage

/-- A sequence keeps a passage if its parts do. -/
theorem bind_passage {α β : Type} {access : Access α} {next : α → Access β}
    (haccess : ∀ state, R state (access state).2) (hnext : ∀ a state, R state (next a state).2)
    (state : State) : R state ((access >>= next) state).2 :=
  passage.trans (haccess state) (hnext (access state).1 (access state).2)

/-- An operation behind a question keeps a passage if both of its ways do. -/
theorem guarded_passage {α : Type} {context : Context} {check : Check}
    {refused : Failure → Access α} {permitted : Access α} (asks : Asks context)
    (quiet : check.offered? = none) (hrefused : ∀ reason state, R state (refused reason state).2)
    (hpermitted : ∀ state, R state (permitted state).2) (state : State) :
    R state (context.guarded check refused permitted state).2 := by
  refine passage.trans (passage.asked state check asks quiet) ?_
  rcases context.refused_or_permits state.store check with ⟨reason, hreason⟩ | permits
  · rw [guarded_of_refused _ _ _ hreason]
    exact hrefused reason _
  · rw [guarded_of_permits _ _ _ permits]
    exact hpermitted _

/-- A read asks questions and does nothing else. -/
theorem get_passage (key : String) (context : Context)
    (asks : ∀ scope ∈ context.ancestry, Asks scope) (state : State) :
    R state (context.get key state).2 := by
  have hget : ∀ context : Context, Asks context →
      (∀ state, R state (context.getBeyond key state).2) →
      ∀ state, R state (context.get key state).2 := by
    intro context hasks hbeyond state
    rw [get_eq]
    refine guarded_passage passage hasks rfl (fun _ => passage.refl) ?_ state
    refine bind_passage passage passage.refl (fun registry state => ?_)
    cases registry.locals.get? key with
    | some value => exact passage.refl state
    | none => exact hbeyond state
  induction context generalizing state with
  | root frame => exact hget (root frame) (asks _ (mem_ancestry_self _)) passage.refl state
  | nested frame parent ih =>
    have hself : Asks (nested frame parent) := asks _ (mem_ancestry_self _)
    refine hget (nested frame parent) hself (fun state => ?_) state
    exact guarded_passage passage hself rfl (fun _ => passage.refl)
      (ih (fun scope hscope => asks scope (mem_ancestry_nested hscope))) state

/-- A read of a variable that has to be there asks questions and does nothing else. -/
theorem require_passage (key : String) (context : Context)
    (asks : ∀ scope ∈ context.ancestry, Asks scope) (state : State) :
    R state (context.require key state).2 :=
  get_passage passage key context asks state

section Set

variable {key : String} {global : Bool} {value : Value}

omit passage in
/-- A local write keeps what its question keeps, alone and together with the change after it. -/
theorem write_passage {context : Context}
    (hasked : ∀ attempt state,
      R state (state.asked context (.setVariable key global value attempt)))
    (hset : ∀ attempt state, R state
      ((state.asked context (.setVariable key global value attempt)).update context.id
        (fun registry => registry.setVariable key value)))
    (attempt : Option (Outcome Unit)) (state : State) :
    R state (context.write key global value attempt state).2 := by
  unfold write
  rcases context.refused_or_permits state.store (.setVariable key global value attempt) with
    ⟨reason, hreason⟩ | permits
  · rw [guarded_of_refused _ _ _ hreason]
    exact hasked attempt state
  · rw [guarded_of_permits _ _ _ permits]
    exact hset attempt state

/-- A write changes the context itself, or if it is global one of those around it and removes what
is bound inside of that. -/
theorem set_passage {context : Context}
    (hasked : ∀ scope ∈ context.ancestry, ∀ attempt state,
      R state (state.asked scope (.setVariable key global value attempt)))
    (hset : ∀ scope ∈ context.ancestry, global = true ∨ scope = context → ∀ attempt state,
      R state ((state.asked scope (.setVariable key global value attempt)).update scope.id
        (fun registry => registry.setVariable key value)))
    (hremove : ∀ scope ∈ context.ancestry, global = true → ∀ state,
      R state (state.update scope.id (fun registry => registry.removeVariable key)))
    (state : State) : R state (context.set key global value state).2 := by
  induction context generalizing state with
  | root frame =>
    exact write_passage (hasked _ (mem_ancestry_self _))
      (hset _ (mem_ancestry_self _) (.inr rfl)) none state
  | nested frame parent ih =>
    have hwrite : ∀ attempt state,
        R state ((nested frame parent).write key global value attempt state).2 :=
      write_passage (hasked _ (mem_ancestry_self _)) (hset _ (mem_ancestry_self _) (.inr rfl))
    unfold set
    cases global with
    | false => exact hwrite none state
    | true =>
      refine bind_passage passage (ih ?_ ?_ ?_) (fun attempt state => ?_) state
      · exact fun scope hscope => hasked scope (mem_ancestry_nested hscope)
      · exact fun scope hscope _ => hset scope (mem_ancestry_nested hscope) (.inl rfl)
      · exact fun scope hscope => hremove scope (mem_ancestry_nested hscope)
      · split
        · exact bind_passage passage (hremove _ (mem_ancestry_self _) rfl) (fun _ => passage.refl)
            state
        · exact hwrite _ state

end Set

section Register

variable {name : String} {function : Function} {global : Bool}

/-- A local registration keeps what its change keeps. -/
theorem enlist_passage {context : Context} {key : String} (asks : Asks context)
    (hadd : ∀ state, R state
      (state.update context.id (fun registry => registry.addFunction key function)))
    (attempt : Option (Outcome Unit)) (state : State) :
    R state (context.enlist key function global attempt state).2 :=
  guarded_passage passage asks rfl (fun _ => passage.refl)
    (bind_passage passage hadd (fun _ => passage.refl)) state

/-- A registration changes the context itself, or if it is global one of those around it. -/
theorem register_passage {context : Context} (asks : ∀ scope ∈ context.ancestry, Asks scope)
    (hadd : ∀ scope ∈ context.ancestry, global = true ∨ scope = context → ∀ key state,
      R state (state.update scope.id (fun registry => registry.addFunction key function)))
    (state : State) : R state (context.register name function global state).2 := by
  induction context generalizing name state with
  | root frame =>
    exact enlist_passage passage (asks _ (mem_ancestry_self _))
      (hadd _ (mem_ancestry_self _) (.inr rfl) _) none state
  | nested frame parent ih =>
    have hself : Asks (nested frame parent) := asks _ (mem_ancestry_self _)
    have henlist : ∀ attempt state,
        R state ((nested frame parent).enlist (Text.key name) function global attempt state).2 :=
      enlist_passage passage hself (hadd _ (mem_ancestry_self _) (.inr rfl) _)
    unfold register
    cases global with
    | false => exact henlist none state
    | true =>
      refine bind_passage passage ?_ (fun attempt state => ?_) state
      · refine guarded_passage passage hself rfl (fun _ => passage.refl) (ih ?_ ?_)
        · exact fun scope hscope => asks scope (mem_ancestry_nested hscope)
        · exact fun scope hscope _ => hadd scope (mem_ancestry_nested hscope) (.inl rfl)
      · split
        · exact passage.refl state
        · exact henlist _ state

end Register

end Passage

section Read

variable {key : String} {context : Context} {state : State} {value : Value}

/-- A read that is permitted finds what the context itself binds, or goes on beyond it. -/
theorem get_of_permits (permits : context.Permits state.store (.getVariable key)) :
    context.get key state =
      match (state.store.registry context.id).locals.get? key with
      | some value => (.success value, state.asked context (.getVariable key))
      | none => context.getBeyond key (state.asked context (.getVariable key)) := by
  rw [get_eq, guarded_of_permits _ _ _ permits, Access.bind_apply, registry_apply,
    State.store_asked]
  cases (state.store.registry context.id).locals.get? key with
  | some value => rfl
  | none => rfl

/-- A variable that the context itself binds is read there. -/
theorem require_of_bound (permits : context.Permits state.store (.getVariable key))
    (bound : (state.store.registry context.id).locals.get? key = some value) :
    context.require key state = (.success value, state.asked context (.getVariable key)) := by
  unfold require
  rw [Access.bind_apply, get_of_permits permits, bound]
  rfl

/-- A value that is read is bound in the context itself, or it is read beyond it. -/
theorem bound_or_beyond_of_get (h : (context.get key state).1 = .success value) :
    (state.store.registry context.id).locals.get? key = some value ∨
      (context.getBeyond key (state.asked context (.getVariable key))).1 = .success value := by
  rcases context.refused_or_permits state.store (.getVariable key) with
    ⟨reason, refused⟩ | permits
  · rw [get_eq, guarded_of_refused _ _ _ refused] at h
    cases h
  · rw [get_of_permits permits] at h
    cases hfound : (state.store.registry context.id).locals.get? key with
    | some found =>
      rw [hfound] at h
      cases h
      exact .inl rfl
    | none =>
      rw [hfound] at h
      exact .inr h

/-- A variable that is read is bound in the context or in one around it. -/
theorem exists_bound_of_get (h : (context.get key state).1 = .success value) :
    ∃ scope ∈ context.ancestry, (state.store.registry scope.id).locals.get? key = some value := by
  induction context generalizing state with
  | root frame =>
    rcases bound_or_beyond_of_get h with hbound | hbeyond
    · exact ⟨root frame, mem_ancestry_self _, hbound⟩
    · cases hbeyond
  | nested frame parent ih =>
    rcases bound_or_beyond_of_get h with hbound | hbeyond
    · exact ⟨nested frame parent, mem_ancestry_self _, hbound⟩
    · simp only [getBeyond] at hbeyond
      let asked := state.asked (nested frame parent) (.getVariable key)
      rcases (nested frame parent).refused_or_permits asked.store (.askParentForVariable key) with
        ⟨reason, refused⟩ | permits
      · rw [guarded_of_refused _ _ asked refused] at hbeyond
        cases hbeyond
      · rw [guarded_of_permits _ _ asked permits] at hbeyond
        obtain ⟨scope, hscope, hbound⟩ := ih hbeyond
        exact ⟨scope, mem_ancestry_nested hscope, hbound⟩

end Read

end Context

/-! ### What is registered under other keys -/

/-- Everywhere there is under a key what there was. -/
def State.Kept (key : String) (state final : State) : Prop :=
  ∀ id, (final.store.registry id).functions.get? key = (state.store.registry id).functions.get? key

section Kept

variable {key : String} {first second third : State}

/-- Nothing is changed under a key by doing nothing. -/
theorem State.Kept.refl (state : State) : state.Kept key state :=
  fun _ => rfl

/-- What two parts of a run leave alone under a key, both together do. -/
theorem State.Kept.trans (hfirst : first.Kept key second) (hsecond : second.Kept key third) :
    first.Kept key third :=
  fun id => (hsecond id).trans (hfirst id)

/-- Where nothing changed under a key, the functions under it are the same. -/
theorem State.Kept.overloads (h : first.Kept key second) (id : Nat) :
    (second.store.registry id).overloads key = (first.store.registry id).overloads key := by
  unfold Registry.overloads
  rw [h id]

/-- A new registry leaves the functions of the others alone. -/
theorem State.kept_extend (state : State) : state.Kept key state.extend := by
  intro id
  rw [State.store_extend, Store.registry_extend]

/-- A change that leaves the functions under a key alone in any registry does so in the store. -/
theorem State.kept_update (state : State) (id : Nat) {change : Registry → Registry}
    (h : ∀ registry : Registry,
      (change registry).functions.get? key = registry.functions.get? key) :
    state.Kept key (state.update id change) := by
  intro other
  rw [State.store_update]
  rcases state.store.registry_update id other change with hsame | hchanged
  · rw [hsame]
  · rw [hchanged, h]

/-- Adding a function leaves those under the other keys alone. -/
theorem State.kept_addFunction (state : State) (id : Nat) {other : String} (function : Function)
    (h : other ≠ key) :
    state.Kept key (state.update id (fun registry => registry.addFunction other function)) := by
  refine state.kept_update id (fun registry => ?_)
  rw [Registry.addFunction, Table.get?_insert, if_neg h]

/-- Questions leave the registered functions alone. -/
theorem passage_kept : Passage (fun _ => True) (State.Kept key) where
  refl := State.Kept.refl
  trans := State.Kept.trans
  asked := fun _ _ _ _ _ => rfl

/-- A registration goes outward under the same key, which is made anew in each context, and leaves
the functions under the other keys as they were. -/
theorem Context.register_kept {context : Context} {name : String} (h : Text.key name ≠ key)
    (function : Function) (global : Bool) (state : State) :
    state.Kept key (context.register name function global state).2 := by
  induction context generalizing name state with
  | root frame =>
    exact enlist_passage passage_kept trivial (fun state => state.kept_addFunction _ function h)
      none state
  | nested frame parent ih =>
    have henlist : ∀ attempt (state : State),
        state.Kept key
          ((nested frame parent).enlist (Text.key name) function global attempt state).2 :=
      enlist_passage passage_kept trivial (fun state => state.kept_addFunction _ function h)
    unfold register
    cases global with
    | false => exact henlist none state
    | true =>
      refine bind_passage passage_kept ?_ (fun attempt state => ?_) state
      · refine guarded_passage passage_kept trivial rfl (fun _ => State.Kept.refl) (ih ?_)
        rwa [Text.key_key]
      · split
        · exact .refl state
        · exact henlist _ state

end Kept

/-! ### What is registered is not taken away -/

/-- Adding a function puts it behind those under its key, and changes nothing under other keys. -/
theorem Registry.overloads_addFunction (registry : Registry) (key other : String)
    (function : Function) :
    (registry.addFunction key function).overloads other =
      registry.overloads other ++ if key = other then [function] else [] := by
  simp only [overloads, addFunction, Table.get?_insert]
  by_cases h : key = other
  · simp [h]
  · simp [h]

/-- Functions are only added, each behind those that its context has under the key. -/
def State.Grown (state final : State) : Prop :=
  ∀ id key, (state.store.registry id).overloads key <+: (final.store.registry id).overloads key

namespace State.Grown

variable {first second third state final : State}

/-- Nothing is taken away by doing nothing. -/
theorem refl (state : State) : state.Grown state :=
  fun _ _ => List.prefix_rfl

/-- What two parts of a run only add to, both together do. -/
theorem trans (hfirst : first.Grown second) (hsecond : second.Grown third) : first.Grown third :=
  fun id key => (hfirst id key).trans (hsecond id key)

/-- An event adds no function. -/
theorem log (state : State) (event : Event) : state.Grown (state.log event) :=
  refl state

/-- A new registry leaves the functions of the others as they are. -/
theorem extend (state : State) : state.Grown state.extend := by
  intro id key
  have hsame : state.extend.store.registry id = state.store.registry id := by
    rw [State.store_extend, Store.registry_extend]
  exact hsame ▸ List.prefix_rfl

/-- A change that only adds functions to any registry only adds functions to the store. -/
theorem update (state : State) (id : Nat) {change : Registry → Registry}
    (h : ∀ registry key, registry.overloads key <+: (change registry).overloads key) :
    state.Grown (state.update id change) := by
  intro other key
  rw [State.store_update]
  rcases state.store.registry_update id other change with hsame | hchanged
  · exact hsame ▸ List.prefix_rfl
  · rw [hchanged]
    exact h _ key

/-- A write leaves the functions as they are. -/
theorem setVariable (state : State) (id : Nat) (key : String) (value : Value) :
    state.Grown (state.update id (fun registry => registry.setVariable key value)) :=
  update state id (fun _ _ => List.prefix_rfl)

/-- Removing a variable leaves the functions as they are. -/
theorem removeVariable (state : State) (id : Nat) (key : String) :
    state.Grown (state.update id (fun registry => registry.removeVariable key)) :=
  update state id (fun _ _ => List.prefix_rfl)

/-- A registration only adds a function. -/
theorem addFunction (state : State) (id : Nat) (key : String) (function : Function) :
    state.Grown (state.update id (fun registry => registry.addFunction key function)) := by
  refine update state id (fun registry other => ?_)
  rw [Registry.overloads_addFunction]
  exact List.prefix_append _ _

/-- A function keeps its place among those under the key. -/
theorem getElem? (h : state.Grown final) {id : Nat} {key : String} {position : Nat}
    {function : Function}
    (found : ((state.store.registry id).overloads key)[position]? = some function) :
    ((final.store.registry id).overloads key)[position]? = some function := by
  obtain ⟨later, hlater⟩ := h id key
  rw [← hlater, List.getElem?_append_left (List.getElem?_eq_some_iff.mp found).1]
  exact found

end State.Grown

end GuardedScript

import GuardedScript.Proofs.Landing
import GuardedScript.Proofs.NamedArguments
import GuardedScript.Proofs.Seating

/-!
# The variables of a script body

Before the block of a script function starts, its arguments are written as local variables, one
after the other, and the policy of the call context is asked about each.  If what it answers does
not depend on what was written before, then the order of the writes can be told from the trace only,
since the names of the arguments are different: in every order the writes go through or one is
refused, and if they go through then the block starts with the same variables and does the same
(`runScript_perm`).

A variadic function has one more variable, for the arguments that are left over, and it is written
last.  A parameter of the same name is lost (`Function.locals_at_start`).
-/

set_option autoImplicit false

namespace GuardedScript

/-! ### Several bindings -/

namespace Table

variable {α : Type}

/-- Binds names one after the other. -/
def insertAll (table : Table α) (entries : List (String × α)) : Table α :=
  entries.foldl (fun table entry => table.insert entry.1 entry.2) table

/-- Two lists of bindings are made one after the other. -/
theorem insertAll_append (table : Table α) (entries others : List (String × α)) :
    table.insertAll (entries ++ others) = (table.insertAll entries).insertAll others :=
  List.foldl_append

/-- Two names may be bound in either order. -/
theorem insert_comm (table : Table Value) {name other : String} (hne : name ≠ other)
    (value value' : Value) :
    (table.insert name value).insert other value' =
      (table.insert other value').insert name value :=
  congrArg Bindings.named (Bindings.insert_comm ⟨table, []⟩ hne value value')

/-- A table has one entry for each name. -/
theorem nodup_entries (table : Table α) : (table.entries.map Prod.fst).Nodup := by
  refine List.pairwise_map.mpr (table.sorted.imp (fun hlt => ?_))
  exact fun hsame => String.lt_irrefl _ (hsame ▸ hlt)

/-- The order in which different names are bound plays no part. -/
theorem insertAll_perm (table : Table Value) {entries others : List (String × Value)}
    (perm : entries.Perm others) (distinct : (entries.map Prod.fst).Nodup) :
    table.insertAll entries = table.insertAll others := by
  refine perm.foldl_eq' (fun first hfirst second hsecond table => ?_) table
  by_cases hsame : first.1 = second.1
  · rw [List.inj_on_of_nodup_map distinct hfirst hsecond hsame]
  · exact table.insert_comm hsame first.2 second.2

/-- A name without an entry is not found. -/
theorem find?_eq_none {name : String} {entries : List (String × α)}
    (h : name ∉ entries.map Prod.fst) : find? name entries = none := by
  rw [Option.eq_none_iff_forall_ne_some]
  intro entry hfound
  exact h (List.mem_map.mpr ⟨(name, entry), mem_of_find? hfound, rfl⟩)

/-- Names that are bound have their values, and the others are as they were. -/
theorem get?_insertAll (table : Table α) {entries : List (String × α)}
    (distinct : (entries.map Prod.fst).Nodup) (name : String) :
    (table.insertAll entries).get? name = (find? name entries).or (table.get? name) := by
  induction entries generalizing table with
  | nil => rfl
  | cons entry entries ih =>
    obtain ⟨hfresh, hdistinct⟩ := List.nodup_cons.mp distinct
    have hrest := ih (table.insert entry.1 entry.2) hdistinct
    rw [get?_insert] at hrest
    refine hrest.trans ?_
    simp only [find?]
    by_cases hname : entry.1 = name
    · have hnone : find? name entries = none := find?_eq_none (hname ▸ hfresh)
      rw [if_pos hname, if_pos hname, hnone]
      rfl
    · rw [if_neg hname, if_neg hname]

/-- The entries of a table make the table again. -/
theorem insertAll_entries (table : Table α) : (∅ : Table α).insertAll table.entries = table := by
  refine ext_get? (fun name => ?_)
  rw [get?_insertAll _ table.nodup_entries]
  exact Option.or_none

end Table

/-- Binds variables one after the other. -/
def Registry.setVariables (registry : Registry) (writes : List (String × Value)) : Registry :=
  { registry with locals := registry.locals.insertAll writes }

namespace Store

/-- Stores with the same registries are the same. -/
theorem ext_registry {left right : Store} (size : left.size = right.size)
    (registries : ∀ id, left.registry id = right.registry id) : left = right := by
  refine congrArg Store.mk (Array.ext size (fun id hleft hright => ?_))
  have hsame := registries id
  simpa [registry, hleft, hright] using hsame

/-- A change that changes nothing leaves the store as it is. -/
theorem update_self (store : Store) (id : Nat) : store.update id (fun registry => registry) =
    store := by
  refine ext_registry (size_update ..) (fun other => ?_)
  rcases store.registry_update id other (fun registry => registry) with hsame | hsame
  · exact hsame
  · exact hsame

/-- Two changes of one registry make up one. -/
theorem update_update (store : Store) (id : Nat) (first second : Registry → Registry) :
    (store.update id first).update id second =
      store.update id (fun registry => second (first registry)) := by
  refine ext_registry (by simp only [size_update]) (fun other => ?_)
  simp only [registry_update_eq, size_update]
  by_cases hhere : id = other ∧ id < store.size
  · simp only [if_pos hhere]
  · simp only [if_neg hhere]

end Store

/-! ### Several writes -/

/-- What the policy of a context is asked about a local write. -/
def Check.ofWrite (write : String × Value) : Check :=
  .setVariable write.1 false write.2 none

/-- The question about a local write, and the answer in a store. -/
def Context.writeAnswered (context : Context) (store : Store) (write : String × Value) : Event :=
  .checked context (.ofWrite write) (context.decision store (.ofWrite write))

/-- The state after a local write that the policy of the context did not refuse. -/
def State.wrote (state : State) (context : Context) (write : String × Value) : State :=
  (state.asked context (.ofWrite write)).update context.id
    (fun registry => registry.setVariable write.1 write.2)

/-- The state after local writes that the policy of the context did not refuse. -/
def State.written (state : State) (context : Context) (writes : List (String × Value)) : State :=
  writes.foldl (fun state write => state.wrote context write) state

/-- The policy of the context lets local writes be made one after the other, and sees for each those
that were made before. -/
def Context.Lets (context : Context) (store : Store) : List (String × Value) → Prop
  | [] => True
  | write :: writes => context.Permits store (.ofWrite write) ∧
    context.Lets (store.update context.id (fun registry => registry.setVariable write.1 write.2))
      writes

/-- What the policy of the context says to local writes does not depend on those made before. -/
def Context.Unswayed (context : Context) (store : Store) : Prop :=
  ∀ writes write,
    context.decision (store.update context.id (fun registry => registry.setVariables writes))
      (.ofWrite write) = context.decision store (.ofWrite write)

namespace State

/-- Writes change the registry of the context, all at once. -/
theorem store_written (state : State) (context : Context) (writes : List (String × Value)) :
    (state.written context writes).store =
      state.store.update context.id (fun registry => registry.setVariables writes) := by
  induction writes generalizing state with
  | nil => exact (state.store.update_self _).symm
  | cons write writes ih => exact (ih (state.wrote context write)).trans (Store.update_update ..)

/-- Writes make no functions. -/
theorem nextFunction_written (state : State) (context : Context) (writes : List (String × Value)) :
    (state.written context writes).nextFunction = state.nextFunction := by
  induction writes generalizing state with
  | nil => rfl
  | cons write writes ih => exact ih (state.wrote context write)

end State

namespace Context

variable {context : Context} {writes : List (String × Value)} {state : State} {store : Store}

/-- A policy that is not swayed by local writes is not so after one of them. -/
theorem Unswayed.update (unswayed : context.Unswayed store) (write : String × Value) :
    context.Unswayed (store.update context.id
      (fun registry => registry.setVariable write.1 write.2)) := by
  intro writes other
  rw [Store.update_update]
  exact (unswayed (write :: writes) other).trans (unswayed [write] other).symm

/-- A policy that is not swayed lets writes be made if it permits each of them. -/
theorem Unswayed.lets_iff (unswayed : context.Unswayed store) :
    context.Lets store writes ↔ ∀ write ∈ writes, context.Permits store (.ofWrite write) := by
  induction writes generalizing store with
  | nil => simp [Lets]
  | cons first writes ih =>
    have hsame : ∀ write : String × Value,
        context.Permits (store.update context.id
          (fun registry => registry.setVariable first.1 first.2)) (.ofWrite write) ↔
        context.Permits store (.ofWrite write) := by
      intro write
      rw [Permits, Permits, show context.decision (store.update context.id
        (fun registry => registry.setVariable first.1 first.2)) (.ofWrite write) = _ from
          unswayed [first] write]
    simp only [Lets, ih (unswayed.update first), hsame, List.forall_mem_cons]

/-- The questions of a policy that is not swayed have the answers of the beginning. -/
theorem Unswayed.trace_written (unswayed : context.Unswayed state.store)
    (writes : List (String × Value)) :
    (state.written context writes).trace =
      (writes.map (context.writeAnswered state.store)).reverse ++ state.trace := by
  induction writes generalizing state with
  | nil => rfl
  | cons first writes ih =>
    have hsame : context.writeAnswered (state.wrote context first).store =
        context.writeAnswered state.store := by
      funext write
      exact congrArg (Event.checked context (.ofWrite write)) (unswayed [first] write)
    have hrest : ((state.wrote context first).written context writes).trace =
        (writes.map (context.writeAnswered (state.wrote context first).store)).reverse ++
          (state.wrote context first).trace := ih (unswayed.update first)
    rw [hsame] at hrest
    refine hrest.trans ?_
    rw [List.map_cons, List.reverse_cons, List.append_assoc]
    rfl

/-- A write that is refused ends the writes. -/
theorem setAll_cons_of_refused {write : String × Value} {denial : Failure}
    (refused : context.decision state.store (.ofWrite write) = .failure denial) :
    context.setAll (write :: writes) state =
      (.failure ((Failure.failedToSetVariable write.1).causedBy denial),
        state.asked context (.ofWrite write)) := by
  unfold setAll
  rw [Access.bind_apply, set_local, write_of_refused refused]
  rfl

/-- A write that is permitted is made, and the others come after it. -/
theorem setAll_cons_of_permits {write : String × Value}
    (permits : context.Permits state.store (.ofWrite write)) :
    context.setAll (write :: writes) state =
      context.setAll writes (state.wrote context write) := by
  rw [setAll, Access.bind_apply, set_local, write_of_permits permits]
  rfl

/-- Writes that the policy lets be made are all made. -/
theorem setAll_of_lets (lets : context.Lets state.store writes) :
    context.setAll writes state = (.success (), state.written context writes) := by
  induction writes generalizing state with
  | nil => rfl
  | cons write writes ih =>
    rw [setAll_cons_of_permits lets.1]
    have hrest : context.setAll writes (state.wrote context write) =
        (.success (), (state.wrote context write).written context writes) := ih lets.2
    exact hrest

/-- Of other writes those before the first one that is refused are made. -/
theorem setAll_of_refused {made later : List (String × Value)} {write : String × Value}
    {denial : Failure} (lets : context.Lets state.store made)
    (refused : context.decision (state.written context made).store (.ofWrite write) =
      .failure denial) :
    context.setAll (made ++ write :: later) state =
      (.failure ((Failure.failedToSetVariable write.1).causedBy denial),
        (state.written context made).asked context (.ofWrite write)) := by
  induction made generalizing state with
  | nil => exact setAll_cons_of_refused refused
  | cons earlier made ih =>
    rw [List.cons_append, setAll_cons_of_permits lets.1]
    have hrest : context.setAll (made ++ write :: later) (state.wrote context earlier) =
        (.failure ((Failure.failedToSetVariable write.1).causedBy denial),
          ((state.wrote context earlier).written context made).asked context (.ofWrite write)) :=
      ih lets.2 refused
    exact hrest

/-- Writes go through, or there is a first one that is refused. -/
theorem lets_or_refused (context : Context) (writes : List (String × Value)) (state : State) :
    context.Lets state.store writes ∨
      ∃ made write later denial, writes = made ++ write :: later ∧
        context.Lets state.store made ∧
        context.decision (state.written context made).store (.ofWrite write) = .failure denial := by
  induction writes generalizing state with
  | nil => exact .inl trivial
  | cons first writes ih =>
    rcases context.refused_or_permits state.store (.ofWrite first) with ⟨denial, hdenial⟩ | hfirst
    · exact .inr ⟨[], first, writes, denial, rfl, trivial, hdenial⟩
    · rcases ih (state.wrote context first) with
        hrest | ⟨made, write, later, denial, rfl, hmade, hdenial⟩
      · exact .inl ⟨hfirst, hrest⟩
      · exact .inr ⟨first :: made, write, later, denial, rfl, ⟨hfirst, hmade⟩, hdenial⟩

/-- The writes that come first are let be made if all are. -/
theorem Lets.of_append {made later : List (String × Value)} {store : Store}
    (lets : context.Lets store (made ++ later)) : context.Lets store made ∧
      context.Lets (store.update context.id (fun registry => registry.setVariables made))
        later := by
  induction made generalizing store with
  | nil => exact ⟨trivial, (store.update_self context.id).symm ▸ lets⟩
  | cons write made ih =>
    obtain ⟨hmade, hlater⟩ := ih lets.2
    rw [Store.update_update] at hlater
    exact ⟨⟨lets.1, hmade⟩, hlater⟩

/-- Writes fail if and only if the policy does not let them all be made. -/
theorem setAll_fails_iff :
    (∃ reason, (context.setAll writes state).1 = .failure reason) ↔
      ¬ context.Lets state.store writes := by
  rcases context.lets_or_refused writes state with lets |
    ⟨made, write, later, denial, rfl, hmade, hdenial⟩
  · rw [setAll_of_lets lets]
    exact iff_of_false (fun ⟨_, hfailure⟩ => nomatch hfailure) (fun hnot => hnot lets)
  · rw [setAll_of_refused hmade hdenial]
    refine iff_of_true ⟨_, rfl⟩ (fun lets => ?_)
    rw [State.store_written] at hdenial
    exact lets.of_append.2.1 denial hdenial

/-- Of the store only the registry of the context has changed, and the trace has only got questions
about some writes. -/
structure OnlyWrote (context : Context) (writes : List (String × Value)) (state final : State) :
    Prop where
  size : final.store.size = state.store.size
  nextFunction : final.nextFunction = state.nextFunction
  others : ∀ id, id ≠ context.id → final.store.registry id = state.store.registry id
  questions : ∃ events, final.trace = events ++ state.trace ∧
    ∀ event ∈ events, ∃ write ∈ writes, event = context.writeAnswered state.store write

/-- Writes that are made change nothing else. -/
theorem Unswayed.onlyWrote_written (unswayed : context.Unswayed state.store)
    (writes : List (String × Value)) :
    context.OnlyWrote writes state (state.written context writes) where
  size := by rw [State.store_written, Store.size_update]
  nextFunction := state.nextFunction_written context writes
  others := fun _ hne => by
    rw [State.store_written, Store.registry_update_of_ne _ _ hne.symm]
  questions := by
    refine ⟨_, unswayed.trace_written writes, fun event hmem => ?_⟩
    obtain ⟨write, hwrite, rfl⟩ := List.mem_map.mp (List.mem_reverse.mp hmem)
    exact ⟨write, hwrite, rfl⟩

/-- Writes change nothing else, whether they are made or not. -/
theorem Unswayed.onlyWrote_setAll (unswayed : context.Unswayed state.store)
    (writes : List (String × Value)) :
    context.OnlyWrote writes state (context.setAll writes state).2 := by
  rcases context.lets_or_refused writes state with lets |
    ⟨made, write, later, denial, rfl, hmade, hdenial⟩
  · rw [setAll_of_lets lets]
    exact unswayed.onlyWrote_written writes
  · rw [setAll_of_refused hmade hdenial]
    obtain ⟨hsize, hnext, hothers, events, htrace, hevents⟩ := unswayed.onlyWrote_written made
    have hsame : context.decision (state.written context made).store (.ofWrite write) =
        context.decision state.store (.ofWrite write) := by
      rw [State.store_written]
      exact unswayed made write
    refine ⟨hsize, hnext, hothers, context.writeAnswered state.store write :: events, ?_, ?_⟩
    · rw [State.trace_asked, htrace, hsame]
      rfl
    · refine List.forall_mem_cons.mpr ⟨⟨write, List.mem_append_cons_self, rfl⟩, ?_⟩
      intro event hmem
      obtain ⟨earlier, hearlier, heq⟩ := hevents event hmem
      exact ⟨earlier, List.mem_append_left _ hearlier, heq⟩

end Context

/-! ### The variables of a body -/

/-- The local variables of a script body, in the order in which they are written. -/
def bodyWrites (variadic : Bool) (named : List (String × Value)) (rest : List Value) :
    List (String × Value) :=
  named ++ if variadic then [(restVariable, .ofList rest)] else []

section Locals

variable {context : Context} {variadic : Bool} {named others : List (String × Value)}
  {rest : List Value} {state : State}

/-- Arguments in another order are variables in another order. -/
theorem bodyWrites_perm (perm : named.Perm others) :
    (bodyWrites variadic named rest).Perm (bodyWrites variadic others rest) :=
  perm.append_right _

/-- A body has its variables written as any others. -/
theorem bindLocals_eq_setAll :
    bindLocals context variadic named rest state =
      context.setAll (bodyWrites variadic named rest) state := by
  induction named generalizing state with
  | nil =>
    cases variadic with
    | false => rfl
    | true =>
      show context.set restVariable false (.ofList rest) state =
        context.setAll [(restVariable, .ofList rest)] state
      rw [Context.set_local]
      rcases context.refused_or_permits state.store (.ofWrite (restVariable, .ofList rest)) with
        ⟨denial, hdenial⟩ | permits
      · rw [Context.setAll_cons_of_refused hdenial]
        exact Context.write_of_refused hdenial
      · rw [Context.setAll_cons_of_permits permits]
        exact Context.write_of_permits permits
  | cons write named ih =>
    rcases context.refused_or_permits state.store (.ofWrite write) with ⟨denial, hdenial⟩ | permits
    · rw [bindLocals, Access.bind_apply, bodyWrites, List.cons_append,
        Context.setAll_cons_of_refused hdenial, Context.setAll_cons_of_refused hdenial]
      rfl
    · have hrest := @ih (state.wrote context write)
      rw [bindLocals, Access.bind_apply] at hrest ⊢
      rw [bodyWrites, List.cons_append, Context.setAll_cons_of_permits permits,
        Context.setAll_cons_of_permits permits]
      exact hrest

/-- Variables that may be written are all written. -/
theorem bindLocals_of_lets (lets : context.Lets state.store (bodyWrites variadic named rest)) :
    bindLocals context variadic named rest state =
      (.success (), state.written context (bodyWrites variadic named rest)) := by
  rw [bindLocals_eq_setAll, Context.setAll_of_lets lets]

/-- Variables cannot be written if and only if one of them may not. -/
theorem bindLocals_fails_iff :
    (∃ reason, (bindLocals context variadic named rest state).1 = .failure reason) ↔
      ¬ context.Lets state.store (bodyWrites variadic named rest) := by
  rw [bindLocals_eq_setAll, Context.setAll_fails_iff]

/-- A body whose variables may be written starts with them. -/
theorem runScript_of_lets (perform : Evaluator) (block : Block)
    (lets : context.Lets state.store (bodyWrites variadic named rest)) :
    runScript perform context variadic named rest block state =
      runBlockIn perform context block
        (state.written context (bodyWrites variadic named rest)) := by
  unfold runScript
  rw [Run.bind_apply_of_some (Run.lift_apply _ _), bindLocals_of_lets lets]

/-- A body whose variables cannot be written does not start. -/
theorem runScript_of_failure (perform : Evaluator) (block : Block) {reason : Failure}
    (failed : (bindLocals context variadic named rest state).1 = .failure reason) :
    runScript perform context variadic named rest block state =
      (some (.failure reason), (bindLocals context variadic named rest state).2) := by
  unfold runScript
  rw [Run.bind_apply_of_some (Run.lift_apply _ _), failed]
  rfl

/-- Writing the variables changes nothing else. -/
theorem onlyWrote_bindLocals (unswayed : context.Unswayed state.store) :
    context.OnlyWrote (bodyWrites variadic named rest) state
      (bindLocals context variadic named rest state).2 := by
  rw [bindLocals_eq_setAll]
  exact unswayed.onlyWrote_setAll _

/-- In every order the same writes are asked about. -/
theorem lets_bodyWrites_iff {store : Store} (unswayed : context.Unswayed store)
    (perm : named.Perm others) :
    context.Lets store (bodyWrites variadic named rest) ↔
      context.Lets store (bodyWrites variadic others rest) := by
  rw [unswayed.lets_iff, unswayed.lets_iff]
  refine forall_congr' (fun write => ?_)
  rw [(bodyWrites_perm perm).mem_iff]

/-- In every order the writes fail, or in every order they go through. -/
theorem bindLocals_fails_perm (unswayed : context.Unswayed state.store)
    (perm : named.Perm others) :
    (∃ reason, (bindLocals context variadic named rest state).1 = .failure reason) ↔
      ∃ reason, (bindLocals context variadic others rest state).1 = .failure reason := by
  rw [bindLocals_fails_iff, bindLocals_fails_iff, lets_bodyWrites_iff unswayed perm]

end Locals

/-! ### Runs from states that differ in their traces -/

/-- Two states differ in their traces only. -/
structure State.Coincides (left right : State) : Prop where
  store : left.store = right.store
  nextFunction : left.nextFunction = right.nextFunction

section Written

variable {context : Context} {variadic : Bool} {named others : List (String × Value)}
  {rest : List Value} {state : State}

/-- The order of the arguments plays no part for the variables with which the block starts. -/
theorem State.written_coincides (perm : named.Perm others)
    (distinct : (named.map Prod.fst).Nodup) :
    (state.written context (bodyWrites variadic named rest)).Coincides
      (state.written context (bodyWrites variadic others rest)) := by
  have hlocals : ∀ locals : Table Value,
      locals.insertAll (bodyWrites variadic named rest) =
        locals.insertAll (bodyWrites variadic others rest) := by
    intro locals
    rw [bodyWrites, bodyWrites, Table.insertAll_append, Table.insertAll_append,
      Table.insertAll_perm _ perm distinct]
  refine ⟨?_, ?_⟩
  · rw [State.store_written, State.store_written]
    refine congrArg (state.store.update context.id) (funext (fun registry => ?_))
    exact congrArg (fun locals => Registry.mk locals registry.functions) (hlocals registry.locals)
  · rw [State.nextFunction_written, State.nextFunction_written]

/-- In every order the questions about the writes are the same. -/
theorem State.trace_written_perm (unswayed : context.Unswayed state.store)
    (perm : named.Perm others) :
    (state.written context (bodyWrites variadic named rest)).trace.Perm
      (state.written context (bodyWrites variadic others rest)).trace := by
  have hwrites : (bodyWrites variadic named rest).Perm (bodyWrites variadic others rest) :=
    bodyWrites_perm perm
  have hanswered := hwrites.map (context.writeAnswered state.store)
  rw [unswayed.trace_written, unswayed.trace_written]
  refine List.Perm.append_right state.trace ?_
  exact (List.reverse_perm _).trans (hanswered.trans (List.reverse_perm _).symm)

end Written

/-- Nothing is hidden. -/
def Veil.clear : Veil where
  locals _ _ := False
  functions _ _ := False

/-- States that differ in their traces are alike where nothing is hidden. -/
theorem State.Coincides.alike {left right : State} (h : left.Coincides right) :
    left.Alike .clear right :=
  .of_store_eq h.store.symm h.nextFunction.symm

/-- States that are alike where nothing is hidden differ in their traces only. -/
theorem State.Alike.coincides {left right : State} (h : left.Alike .clear right) :
    left.Coincides right :=
  ⟨Store.ext_registry h.size (fun _ => h.registry_eq (fun _ hidden => hidden)
    (fun _ hidden => hidden)), h.nextFunction⟩

/-- No policy sees the trace, and so no program comes to see it. -/
theorem Veil.clear_confines : Veil.clear.Confines 0 (fun _ => True) where
  inherited := ⟨fun _ _ _ => trivial, fun _ _ _ _ => trivial⟩
  ignores := fun {context} _ => context.ignores_of_store_eq (fun _ _ alike => alike.coincides.store)
  reads := fun {context} _ _ => agrees_get_of_visible (alike_likeness _)
    (context.ignores_of_store_eq (fun _ _ alike => alike.coincides.store))
    (fun _ _ _ _ alike => alike.locals_eq id)
  searches := fun _ _ _ _ _ hidden => hidden

/-- What a block does cannot depend on the trace. -/
theorem runBlockIn_of_coincides (fuel : Nat) (context : Context) (block : Block)
    {left right : State} (h : left.Coincides right) :
    let first := runBlockIn (perform fuel) context block left
    let second := runBlockIn (perform fuel) context block right
    first.1 = second.1 ∧ first.2.Coincides second.2 ∧
      ∃ events, first.2.trace = events ++ left.trace ∧ second.2.trace = events ++ right.trace := by
  intro first second
  obtain ⟨-, performs⟩ := (agreement_descends Veil.clear_confines).perform_holds fuel
  have hactions : (agreement Veil.clear_confines).Holds
      (fun _ => runBlockIn (perform fuel) context block) Terms.any.Answers :=
    Discipline.holds_runActions (fun action _ => performs.act trivial action.abides_any) trivial
  obtain ⟨hsame, habreast, -⟩ := hactions left right (Nat.zero_le _) h.alike
  exact ⟨hsame, habreast.related.coincides, habreast.events⟩

/-! ### The order of the arguments -/

/-- The order in which the arguments of a script function are written plays no part, if the policy
is not swayed by what is written before.  In every order the writes go through, or in every order
one of them is refused.  If they go through, then the block starts in the same state up to the order
of the questions about the writes; so it has the same outcome, leaves the same events and ends in
the same state.  If one is refused, then no block is run, and nothing but the call context has
changed. -/
theorem runScript_perm {function : Function} {block : Block}
    (script : function.body = .script block) {bindings : Bindings}
    {order other : List (String × Value)} (perm : order.Perm bindings.named.entries)
    (perm' : other.Perm bindings.named.entries) (fuel : Nat) (context : Context) (state : State)
    (unswayed : context.Unswayed state.store) :
    let start := fun named => bindLocals context function.variadic named bindings.rest state
    let call := fun named =>
      runScript (perform fuel) context function.variadic named bindings.rest block state
    runBody (perform fuel) context function bindings state = call bindings.named.entries ∧
      ((∃ reason, (start order).1 = .failure reason) ↔
        ∃ reason, (start other).1 = .failure reason) ∧
      ((¬ ∃ reason, (start order).1 = .failure reason) →
        call order = runBlockIn (perform fuel) context block (start order).2 ∧
          call other = runBlockIn (perform fuel) context block (start other).2 ∧
          (start order).2.Coincides (start other).2 ∧
          (start order).2.trace.Perm (start other).2.trace ∧
          (call order).1 = (call other).1 ∧ (call order).2.Coincides (call other).2 ∧
          ∃ events, (call order).2.trace = events ++ (start order).2.trace ∧
            (call other).2.trace = events ++ (start other).2.trace) ∧
      ∀ reason, (start order).1 = .failure reason →
        (∀ (perform : Evaluator) (block : Block),
          runScript perform context function.variadic order bindings.rest block state =
            (some (.failure reason), (start order).2)) ∧
          context.OnlyWrote (bodyWrites function.variadic order bindings.rest) state
            (start order).2 := by
  intro start call
  have hperm : order.Perm other := perm.trans perm'.symm
  have hdistinct : (order.map Prod.fst).Nodup :=
    (perm.map Prod.fst).nodup_iff.mpr bindings.named.nodup_entries
  refine ⟨?_, bindLocals_fails_perm unswayed hperm, ?_, ?_⟩
  · simp only [runBody, script, call]
  · intro hgoes
    have lets := not_not.mp (fun hnot => hgoes (bindLocals_fails_iff.mpr hnot))
    have lets' := (lets_bodyWrites_iff unswayed hperm).mp lets
    have hstart : (start order).2 =
        state.written context (bodyWrites function.variadic order bindings.rest) :=
      congrArg Prod.snd (bindLocals_of_lets lets)
    have hstart' : (start other).2 =
        state.written context (bodyWrites function.variadic other bindings.rest) :=
      congrArg Prod.snd (bindLocals_of_lets lets')
    have hsame : (start order).2.Coincides (start other).2 := by
      rw [hstart, hstart']
      exact State.written_coincides hperm hdistinct
    have htraces : (start order).2.trace.Perm (start other).2.trace := by
      rw [hstart, hstart']
      exact State.trace_written_perm unswayed hperm
    have hcall : call order = runBlockIn (perform fuel) context block (start order).2 := by
      rw [hstart]
      exact runScript_of_lets _ block lets
    have hcall' : call other = runBlockIn (perform fuel) context block (start other).2 := by
      rw [hstart']
      exact runScript_of_lets _ block lets'
    have hruns := runBlockIn_of_coincides fuel context block hsame
    rw [← hcall, ← hcall'] at hruns
    exact ⟨hcall, hcall', hsame, htraces, hruns⟩
  · intro reason hfailed
    refine ⟨fun perform block => runScript_of_failure perform block hfailed, ?_⟩
    exact onlyWrote_bindLocals unswayed

/-- Lists two arguments and those that are left over. -/
def rosterBlock : Block :=
  ⟨defaultMarker, [.evaluate (.ofList [.reference "a", .reference "b", .reference restVariable])]⟩

def roster : Function :=
  ⟨0, "f", [.mandatory "a" (.declared .int), .mandatory "b" (.declared .int)], true,
    .script rosterBlock⟩

/-- Refuses to have one variable written. -/
def Policy.withholding (name : String) : Policy :=
  .custom "withholding"
    (fun _ check =>
      match check with
      | .setVariable key _ _ _ =>
        if key = name then .failure (.accessDenied "withheld") else .empty
      | _ => .empty)
    (fun _ _ => .empty)

/-- Two orders of two arguments.  Under a policy without opinions both runs list the arguments.
Under one that withholds the second argument both fail, although the first argument has been written
in one of them only. -/
theorem runScript_perm_roster :
    let bindings : Bindings := ⟨Table.ofList [("a", .int 1), ("b", .int 2)], [.int 3]⟩
    let order : List (String × Value) := [("b", .int 2), ("a", .int 1)]
    let lenient := Context.root ⟨0, .global, .permissive, {}⟩
    let strict := Context.root ⟨0, .global, .withholding "b", {}⟩
    let state : State := ⟨⟨#[{}]⟩, 0, []⟩
    let start := fun (context : Context) named => bindLocals context true named bindings.rest state
    let call := fun (context : Context) named =>
      runScript (perform 9) context true named bindings.rest rosterBlock state
    order.Perm bindings.named.entries ∧ lenient.Unswayed state.store ∧
      strict.Unswayed state.store ∧
      ((call lenient order).1.bind Outcome.success?).map Value.text = some "[1, 2, [3]]" ∧
      (call lenient order).1 = (call lenient bindings.named.entries).1 ∧
      (∃ reason, (start strict order).1 = .failure reason) ∧
      (∃ reason, (start strict bindings.named.entries).1 = .failure reason) ∧
      ((start strict order).2.store.registry 0).locals.size = 0 ∧
      ((start strict bindings.named.entries).2.store.registry 0).locals.size = 1 := by
  intro bindings order lenient strict state start call
  have hscript : roster.body = .script rosterBlock := rfl
  have hperm : order.Perm bindings.named.entries := .swap ..
  have lenientUnswayed : lenient.Unswayed state.store := fun _ _ => rfl
  have strictUnswayed : strict.Unswayed state.store := fun _ _ => rfl
  have hlenient := runScript_perm hscript hperm (.refl _) 9 lenient state lenientUnswayed
  have hstrict := runScript_perm hscript hperm (.refl _) 9 strict state strictUnswayed
  have hrefused : ∃ reason, (start strict order).1 = .failure reason := ⟨_, rfl⟩
  have hgoes : ¬ ∃ reason, (start lenient order).1 = .failure reason :=
    fun ⟨_, hfailure⟩ => nomatch hfailure
  obtain ⟨-, -, -, -, hsame, -⟩ := hlenient.2.2.1 hgoes
  exact ⟨hperm, lenientUnswayed, strictUnswayed, by decide +kernel, hsame, hrefused,
    hstrict.2.1.mp hrefused, rfl, rfl⟩

/-! ### The arguments that a block finds -/

/-- The context of a call under a given policy, at a place. -/
def Context.callUnder (caller : Context) (policy : Policy) (id : Nat) (function : Function) :
    Context :=
  nested ⟨id, .call function, policy, caller.options⟩ caller

/-- The state in which the block of a script function starts if all its variables may be written. -/
def State.started (state : State) (lookup : Option Lookup) (caller : Context) (function : Function)
    (policy : Policy) (bindings : Bindings) : State :=
  let callee := caller.callUnder policy state.store.size function
  ((state.extend.log (.entered lookup caller callee)).log (.began callee function)).written callee
    (bodyWrites function.variadic bindings.named.entries bindings.rest)

namespace Bindings

variable {bindings : Bindings} {variadic : Bool}

/-- The local variables that bindings come to. -/
def locals (bindings : Bindings) (variadic : Bool) : Table Value :=
  if variadic then bindings.named.insert restVariable (.ofList bindings.rest) else bindings.named

/-- Local variables show all that is bound and all that is left over, and nothing else. -/
structure ShownBy (bindings : Bindings) (variadic : Bool) (locals : Table Value) : Prop where
  named : ∀ name value, bindings.get? name = some value → locals.get? name = some value
  rest : variadic = true → locals.get? restVariable = some (.ofList bindings.rest)
  only : ∀ name, locals.contains name = true →
    bindings.contains name = true ∨ variadic = true ∧ name = restVariable

/-- Each name shows what is bound to it, and the name of the rest shows the rest. -/
theorem get?_locals (bindings : Bindings) (variadic : Bool) (name : String) :
    (bindings.locals variadic).get? name =
      if variadic = true ∧ name = restVariable then some (.ofList bindings.rest)
      else bindings.get? name := by
  cases variadic with
  | false => simp [locals, Bindings.get?]
  | true => simp [locals, Table.get?_insert, Bindings.get?, eq_comm]

/-- Writing the variables in an empty registry makes these. -/
theorem insertAll_bodyWrites (bindings : Bindings) (variadic : Bool) :
    (∅ : Table Value).insertAll (bodyWrites variadic bindings.named.entries bindings.rest) =
      bindings.locals variadic := by
  rw [bodyWrites, Table.insertAll_append, Table.insertAll_entries]
  cases variadic with
  | false => rfl
  | true => rfl

/-- What is bound is shown unless it is bound to the name under which the rest is shown. -/
theorem shownBy_locals_iff : bindings.ShownBy variadic (bindings.locals variadic) ↔
    (variadic = true → ∀ value, bindings.get? restVariable = some value →
      value = .ofList bindings.rest) := by
  constructor
  · rintro ⟨hnamed, hrest, -⟩ hvariadic value hbound
    have hshown := (hnamed restVariable value hbound).symm.trans (hrest hvariadic)
    exact Option.some.inj hshown
  · intro hsame
    refine ⟨?_, ?_, ?_⟩
    · intro name value hbound
      rw [get?_locals]
      split
      · next hname =>
        obtain ⟨hvariadic, rfl⟩ := hname
        rw [hsame hvariadic value hbound]
      · exact hbound
    · intro hvariadic
      rw [get?_locals, if_pos ⟨hvariadic, rfl⟩]
    · intro name hcontains
      by_cases hname : variadic = true ∧ name = restVariable
      · exact .inr hname
      · rw [Table.contains, get?_locals, if_neg hname] at hcontains
        exact .inl hcontains

end Bindings

section Start

variable {function : Function} {block : Block} {bindings : Bindings} {caller : Context}
  {policy : Policy} {state : State}

/-- A call whose variables may be written runs its block with them. -/
theorem enter_of_lets (script : function.body = .script block) (lookup : Option Lookup)
    (lets : (caller.callUnder policy state.store.size function).Lets state.store.extend
      (bodyWrites function.variadic bindings.named.entries bindings.rest)) (fuel : Nat) :
    enter (perform (fuel + 1)) lookup caller function policy bindings state =
      runBlockIn (perform fuel) (caller.callUnder policy state.store.size function) block
        (state.started lookup caller function policy bindings) := by
  have hbody : ∀ reached : State, reached.store = state.store.extend →
      runBody (perform fuel) (caller.callUnder policy state.store.size function) function bindings
          reached =
        runBlockIn (perform fuel) (caller.callUnder policy state.store.size function) block
          (reached.written (caller.callUnder policy state.store.size function)
            (bodyWrites function.variadic bindings.named.entries bindings.rest)) := by
    intro reached hreached
    rw [runBody, script]
    exact runScript_of_lets _ block (hreached ▸ lets)
  rw [enter_apply]
  exact hbody _ rfl

/-- The registry of the new context is empty until the variables are written. -/
theorem locals_started (lookup : Option Lookup) (caller : Context) (function : Function)
    (policy : Policy) (bindings : Bindings) (state : State) :
    let started := state.started lookup caller function policy bindings
    (started.store.registry state.store.size).locals = bindings.locals function.variadic := by
  intro started
  have hplace : state.store.size < state.store.extend.size := by
    rw [Store.size_extend]
    omega
  have hempty : state.store.extend.registry state.store.size = {} := by
    rw [Store.registry_extend, Store.registry_of_size_le (Nat.le_refl _)]
  have hregistry := Store.registry_update_self (fun registry => registry.setVariables
    (bodyWrites function.variadic bindings.named.entries bindings.rest)) hplace
  rw [hempty] at hregistry
  rw [← bindings.insertAll_bodyWrites]
  have hstore : started.store = state.store.extend.update state.store.size (fun registry =>
      registry.setVariables
        (bodyWrites function.variadic bindings.named.entries bindings.rest)) :=
    State.store_written _ _ _
  rw [hstore]
  exact congrArg Registry.locals hregistry

end Start

/-- An argument that takes no parameter is left over, which only a variadic function allows. -/
theorem Seating.left_over {function : Function} {arguments : List (Argument Value)}
    {bindings : Bindings}
    {assigned : Fin arguments.length → Option (Fin function.parameters.length)}
    (seating : Seating function arguments bindings assigned) {place : Fin arguments.length}
    (unseated : assigned place = none) :
    function.variadic = true ∧ (arguments.get place).value ∈ bindings.rest := by
  have hrest : (arguments.get place).value ∈ bindings.rest := by
    rw [seating.rest]
    refine List.mem_map.mpr ⟨place, List.mem_filter.mpr ⟨List.mem_finRange place, ?_⟩, rfl⟩
    rw [unseated]
    rfl
  refine ⟨?_, hrest⟩
  cases hvariadic : function.variadic with
  | true => rfl
  | false =>
    rw [seating.nothing hvariadic] at hrest
    exact absurd hrest List.not_mem_nil

/-- The variables that the block of a script function finds when it starts, in a new context whose
policy lets all of them be written: under every name the value that is bound to it, except that a
variadic function finds the array of what is left over under the name of the rest.  So every
argument that has taken a parameter is found under the name of the parameter, unless that is the
name of the rest and the function is variadic; every other argument is found in the rest.  The
variables show all arguments if and only if no parameter is lost to the rest. -/
theorem Function.locals_at_start {function : Function} {block : Block}
    {arguments : List (Argument Value)} {bindings : Bindings} {caller : Context} {policy : Policy}
    {state : State} (script : function.body = .script block)
    (distinct : (function.parameters.map Parameter.name).Nodup)
    (bound : function.bind? arguments = some bindings)
    (lets : (caller.callUnder policy state.store.size function).Lets state.store.extend
      (bodyWrites function.variadic bindings.named.entries bindings.rest))
    (lookup : Option Lookup) :
    let callee := caller.callUnder policy state.store.size function
    let started := state.started lookup caller function policy bindings
    let locals := (started.store.registry callee.id).locals
    (∀ fuel, enter (perform (fuel + 1)) lookup caller function policy bindings state =
      runBlockIn (perform fuel) callee block started) ∧
      (∀ name, locals.get? name =
        if function.variadic = true ∧ name = restVariable then some (.ofList bindings.rest)
        else bindings.get? name) ∧
      (∀ place, match seat function.parameters arguments place with
        | some slot => (function.variadic = true ∧
              (function.parameters.get slot).name = restVariable) ∨
            locals.get? (function.parameters.get slot).name = some (arguments.get place).value
        | none => function.variadic = true ∧ (arguments.get place).value ∈ bindings.rest) ∧
      (bindings.ShownBy function.variadic locals ↔
        (function.variadic = true → ∀ value, bindings.get? restVariable = some value →
          value = .ofList bindings.rest)) ∧
      (restVariable ∉ function.parameters.map Parameter.name →
        bindings.ShownBy function.variadic locals) := by
  intro callee started locals
  have hseating := seating_seat distinct bound
  have hlocals : locals = bindings.locals function.variadic :=
    locals_started lookup caller function policy bindings state
  have hget : ∀ name, locals.get? name =
      if function.variadic = true ∧ name = restVariable then some (.ofList bindings.rest)
      else bindings.get? name := by
    rw [hlocals]
    exact bindings.get?_locals function.variadic
  have hshown : bindings.ShownBy function.variadic locals ↔
      (function.variadic = true → ∀ value, bindings.get? restVariable = some value →
        value = .ofList bindings.rest) := by
    rw [hlocals]
    exact Bindings.shownBy_locals_iff
  refine ⟨enter_of_lets script lookup lets, hget, ?_, hshown, ?_⟩
  · intro place
    cases hseat : seat function.parameters arguments place with
    | some slot =>
      by_cases hlost : function.variadic = true ∧
          (function.parameters.get slot).name = restVariable
      · exact .inl hlost
      · refine .inr ?_
        rw [hget, if_neg hlost]
        exact hseating.bound hseat
    | none => exact hseating.left_over hseat
  · intro hapart
    refine hshown.mpr (fun _ value hbound => ?_)
    have hcontains := Option.isSome_iff_exists.mpr ⟨value, hbound⟩
    obtain ⟨slot, hname⟩ := hseating.names restVariable hcontains
    exact absurd (List.mem_map.mpr ⟨_, List.get_mem _ slot, hname⟩) hapart

/-- The third argument is left over, and the block finds all three. -/
theorem locals_at_start_roster :
    let caller := Context.root ⟨0, .global, .permissive, {}⟩
    let state : State := ⟨⟨#[{}]⟩, 0, []⟩
    let arguments : List (Argument Value) :=
      [.named "b" (.int 2), .positional (.int 1), .positional (.int 3)]
    let bindings : Bindings := ⟨Table.ofList [("a", .int 1), ("b", .int 2)], [.int 3]⟩
    let started := state.started none caller roster .permissive bindings
    roster.body = .script rosterBlock ∧ (roster.parameters.map Parameter.name).Nodup ∧
      roster.bind? arguments = some bindings ∧
      (caller.callUnder .permissive state.store.size roster).Lets state.store.extend
        (bodyWrites true bindings.named.entries bindings.rest) ∧
      restVariable ∉ roster.parameters.map Parameter.name ∧
      bindings.ShownBy true (started.store.registry 1).locals ∧
      (started.store.registry 1).locals.get? restVariable = some (.ofList [.int 3]) := by
  intro caller state arguments bindings started
  have hscript : roster.body = .script rosterBlock := rfl
  have hdistinct : (roster.parameters.map Parameter.name).Nodup := by decide
  have hbound : roster.bind? arguments = some bindings := rfl
  have lets : (caller.callUnder .permissive state.store.size roster).Lets state.store.extend
      (bodyWrites true bindings.named.entries bindings.rest) :=
    ⟨nofun, nofun, nofun, trivial⟩
  have hapart : restVariable ∉ roster.parameters.map Parameter.name := by decide
  obtain ⟨-, hget, -, -, hshown⟩ :=
    Function.locals_at_start hscript hdistinct hbound lets none
  exact ⟨hscript, hdistinct, hbound, lets, hapart, hshown hapart, hget restVariable⟩

/-- Returns the variable of the rest, which is the name of its parameter, too. -/
def crowded : Function :=
  ⟨0, "f", [.mandatory restVariable (.declared .int)], true,
    .script ⟨defaultMarker, [.evaluate (.reference restVariable)]⟩⟩

/-- The only argument is bound, but the block finds an empty array in its place and returns that. -/
theorem not_shownBy_crowded :
    let caller := Context.root ⟨0, .global, .permissive, {}⟩
    let state : State := ⟨⟨#[{}]⟩, 0, []⟩
    let bindings : Bindings := ⟨Table.ofList [(restVariable, .int 5)], []⟩
    let started := state.started none caller crowded .permissive bindings
    (crowded.parameters.map Parameter.name).Nodup ∧
      crowded.bind? [.positional (.int 5)] = some bindings ∧
      (caller.callUnder .permissive state.store.size crowded).Lets state.store.extend
        (bodyWrites true bindings.named.entries bindings.rest) ∧
      bindings.get? restVariable = some (.int 5) ∧
      (started.store.registry 1).locals.get? restVariable = some (.ofList []) ∧
      ¬ bindings.ShownBy true (started.store.registry 1).locals ∧
      ((invokeObject (perform 9) none caller crowded bindings state).1.bind
        Outcome.success?).map Value.text = some "[]" := by
  intro caller state bindings started
  have hlocals : (started.store.registry 1).locals = bindings.locals true :=
    locals_started none caller crowded .permissive bindings state
  have hfound : (started.store.registry 1).locals.get? restVariable = some (.ofList []) := by
    rw [hlocals, Bindings.get?_locals]
    rfl
  refine ⟨by decide, rfl, ⟨nofun, nofun, trivial⟩, rfl, hfound, ?_,
    by decide +kernel⟩
  intro hshown
  have hlost := (hshown.named restVariable (.int 5) rfl).symm.trans hfound
  cases hlost

end GuardedScript

import GuardedScript.Evaluation
import GuardedScript.Proofs.Effects

/-!
# Programs on terms

What holds of all runs often asks something of the programs: which values they keep, and how far
their writes reach.  `Terms` is such a pair of conditions.  A function, a statement or a native body
abides by the terms if all that it may ever store, pass on or return does; a native body has to do
so only as far as its arguments and the answers to its requests do.

A state abides by the terms if all its variables and functions do.  The operations on contexts keep
it so, and binding keeps the terms of the arguments and of the defaults.
-/

set_option autoImplicit false

namespace GuardedScript

/-- What programs are held to. -/
structure Terms where
  /-- The values that may be stored, passed to functions and returned. -/
  Keeps : Value → Prop
  /-- Whether writes may be local, and whether they may be global. -/
  Writes : Bool → Prop
  keeps_of_fixed : ∀ {value : Value}, value.needsEvaluation = false → Keeps value
  keeps_ofList : ∀ {items : List Value}, (∀ item ∈ items, Keeps item) → Keeps (.ofList items)
  writes_local : Writes false

namespace Terms

variable (terms : Terms)

/-- An outcome that may be returned. -/
def Answers (outcome : Outcome Value) : Prop :=
  ∀ value, outcome = .success value → terms.Keeps value

/-- Arguments that may be passed. -/
def Passes (arguments : List (Argument Value)) : Prop :=
  ∀ argument ∈ arguments, terms.Keeps argument.value

/-- Bindings that may be passed. -/
def Binds (bindings : Bindings) : Prop :=
  bindings.named.All terms.Keeps ∧ ∀ value ∈ bindings.rest, terms.Keeps value

end Terms

mutual

/-- The defaults and the body of a function keep to the terms. -/
inductive Function.Abides (terms : Terms) : Function → Prop
  | intro {function : Function}
      (defaults : ∀ parameter ∈ function.parameters, ∀ default,
        parameter.missing = .substitute default → terms.Keeps default)
      (body : Body.Abides terms function.body) : Function.Abides terms function

/-- A body keeps to the terms whenever its arguments do. -/
inductive Body.Abides (terms : Terms) : Body → Prop
  | native {routine : Bindings → Routine}
      (routines : ∀ bindings, terms.Binds bindings → Routine.Abides terms (routine bindings)) :
      Body.Abides terms (.native routine)
  | script {block : Block} (actions : ∀ action ∈ block.actions, Action.Abides terms action) :
      Body.Abides terms (.script block)

/-- A statement writes no further than the terms allow, and declares functions that abide. -/
inductive Action.Abides (terms : Terms) : Action → Prop
  | assign (key : String) {global : Bool} (value : Value) (writes : terms.Writes global) :
      Action.Abides terms (.assign key global value)
  | declare (name : String) {function : Function} {global : Bool}
      (abides : Function.Abides terms function) (writes : terms.Writes global) :
      Action.Abides terms (.declare name function global)
  | evaluate (value : Value) : Action.Abides terms (.evaluate value)
  | block {block : Block} (actions : ∀ action ∈ block.actions, Action.Abides terms action) :
      Action.Abides terms (.block block)

/-- A native body keeps to the terms as long as the answers to its requests do.  What it evaluates
or converts is not kept, so that may be any value. -/
inductive Routine.Abides (terms : Terms) : Routine → Prop
  | done {outcome : Outcome Value} (answers : terms.Answers outcome) :
      Routine.Abides terms (.done outcome)
  | note (line : String) {next : Routine} (rest : Routine.Abides terms next) :
      Routine.Abides terms (.note line next)
  | inspect {next : Snapshot → Routine} (rest : ∀ snapshot, Routine.Abides terms (next snapshot)) :
      Routine.Abides terms (.inspect next)
  | resolve (value : Value) {next : Outcome Value → Routine}
      (rest : ∀ outcome, terms.Answers outcome → Routine.Abides terms (next outcome)) :
      Routine.Abides terms (.resolve value next)
  | set (key : String) {global : Bool} {value : Value} {next : Outcome Unit → Routine}
      (writes : terms.Writes global) (keeps : terms.Keeps value)
      (rest : ∀ outcome, Routine.Abides terms (next outcome)) :
      Routine.Abides terms (.set key global value next)
  | register (name : String) {function : Function} {global : Bool} {next : Outcome Unit → Routine}
      (abides : Function.Abides terms function) (writes : terms.Writes global)
      (rest : ∀ outcome, Routine.Abides terms (next outcome)) :
      Routine.Abides terms (.register name function global next)
  | invoke (name : String) {arguments : List (Argument Value)} {next : Outcome Value → Routine}
      (passes : terms.Passes arguments)
      (rest : ∀ outcome, terms.Answers outcome → Routine.Abides terms (next outcome)) :
      Routine.Abides terms (.invoke name arguments next)
  | convert (value : Value) (target : ValueType) {next : Outcome Value → Routine}
      (rest : ∀ outcome, terms.Answers outcome → Routine.Abides terms (next outcome)) :
      Routine.Abides terms (.convert value target next)

end

/-- The variables and functions of a registry keep to the terms. -/
structure Registry.Abides (terms : Terms) (registry : Registry) : Prop where
  locals : registry.locals.All terms.Keeps
  functions : registry.functions.All (fun overloads => ∀ function ∈ overloads,
    function.Abides terms)

/-- The variables and functions of all contexts keep to the terms. -/
def State.Abides (terms : Terms) (state : State) : Prop :=
  ∀ id, (state.store.registry id).Abides terms

/-! ### Values and outcomes -/

namespace Terms

variable {terms : Terms} {value : Value} {outcome : Outcome Value}

/-- A value that is kept may be an answer. -/
theorem answers_success (h : terms.Keeps value) : terms.Answers (.success value) := by
  intro other heq
  cases heq
  exact h

/-- No value may be an answer. -/
theorem answers_empty : terms.Answers .empty := by
  intro value heq
  cases heq

/-- A failure may be an answer. -/
theorem answers_failure (reason : Failure) : terms.Answers (.failure reason) := by
  intro value heq
  cases heq

/-- Of two outcomes that may be answers either may be given. -/
theorem Answers.orElse (h : terms.Answers outcome) {alternative : Outcome Value}
    (halternative : terms.Answers alternative) : terms.Answers (outcome.orElse alternative) := by
  cases outcome with
  | success value => exact h
  | empty => exact halternative
  | failure reason => exact h

/-- The undefined value is kept. -/
theorem keeps_undefined : terms.Keeps .undefined :=
  terms.keeps_of_fixed rfl

/-- What an outcome that may be an answer comes to is kept. -/
theorem Answers.settle (h : terms.Answers outcome) (settled : outcome.settle = .ok value) :
    terms.Keeps value := by
  cases outcome with
  | success found =>
    cases settled
    exact h _ rfl
  | empty =>
    cases settled
    exact keeps_undefined
  | failure reason => cases settled

/-- A built-in conversion gives the value itself or a value without parts. -/
theorem answers_coerce (h : terms.Keeps value) (options : Options) (target : ValueType) :
    terms.Answers (value.coerce options target) := by
  intro converted heq
  rcases Value.eq_or_needsEvaluation_of_coerce heq with rfl | hfixed
  · exact h
  · exact terms.keeps_of_fixed hfixed

end Terms

/-! ### Bindings -/

section Binding

variable {terms : Terms}

/-- A kept value may be bound besides others. -/
theorem Terms.Binds.insert {bindings : Bindings} (h : terms.Binds bindings) (name : String)
    {value : Value} (hvalue : terms.Keeps value) : terms.Binds (bindings.insert name value) :=
  ⟨h.1.insert name hvalue, h.2⟩

/-- A kept value may be left over besides others. -/
theorem Terms.Binds.pushRest {bindings : Bindings} (h : terms.Binds bindings) {value : Value}
    (hvalue : terms.Keeps value) : terms.Binds (bindings.pushRest value) := by
  refine ⟨h.1, fun other hmem => ?_⟩
  rcases List.mem_append.mp hmem with hold | hnew
  · exact h.2 other hold
  · rw [List.mem_singleton.mp hnew]
    exact hvalue

/-- Filling a slot leaves the parameters of all slots as they were. -/
theorem Slot.map_parameter_of_take? {test : Parameter → Bool} {slots : List Slot}
    {found : String × List Slot} (h : Slot.take? test slots = some found) :
    found.2.map Slot.parameter = slots.map Slot.parameter := by
  induction slots generalizing found with
  | nil => cases h
  | cons slot slots ih =>
    unfold Slot.take? at h
    split at h
    · cases h
      rfl
    · obtain ⟨rest, hrest, rfl⟩ := Option.map_eq_some_iff.mp h
      rw [List.map_cons, List.map_cons, ih hrest]

/-- A binding that has the parameters of a function as its slots and has bound what may be
passed. -/
structure Progress.Abides (terms : Terms) (parameters : List Parameter) (progress : Progress) :
    Prop where
  slots : progress.slots.map Slot.parameter = parameters
  bound : terms.Binds progress.bound

variable {parameters : List Parameter} {progress : Progress}

/-- A binding starts with the parameters as its slots and nothing bound. -/
theorem Progress.start_abides : (Progress.start parameters).Abides terms parameters := by
  refine ⟨?_, Table.all_empty, fun value h => absurd h List.not_mem_nil⟩
  simp [Progress.start, Function.comp_def]

/-- Filling a slot with a kept value keeps the terms. -/
theorem Progress.Abides.take? (h : progress.Abides terms parameters) {test : Parameter → Bool}
    {value : Value} (hvalue : terms.Keeps value) {next : Progress}
    (taken : progress.take? test value = some next) : next.Abides terms parameters := by
  obtain ⟨found, hfound, rfl⟩ := Option.map_eq_some_iff.mp taken
  exact ⟨(Slot.map_parameter_of_take? hfound).trans h.slots, h.bound.insert _ hvalue⟩

/-- Binding the named arguments keeps the terms, and so do those that are left. -/
theorem Progress.Abides.takeNamed (h : progress.Abides terms parameters)
    {arguments : List (Argument Value)} (passes : terms.Passes arguments) :
    terms.Passes (progress.takeNamed arguments).1 ∧
      (progress.takeNamed arguments).2.Abides terms parameters := by
  induction arguments generalizing progress with
  | nil => exact ⟨passes, h⟩
  | cons argument arguments ih =>
    obtain ⟨hfirst, hrest⟩ := List.forall_mem_cons.mp passes
    obtain ⟨name, value⟩ := argument
    cases name with
    | none =>
      obtain ⟨hleft, hfinal⟩ := ih h hrest
      exact ⟨List.forall_mem_cons.mpr ⟨hfirst, hleft⟩, hfinal⟩
    | some name =>
      unfold Progress.takeNamed
      split
      · next next taken => exact ih (h.take? hfirst taken) hrest
      · obtain ⟨hleft, hfinal⟩ := ih h hrest
        exact ⟨List.forall_mem_cons.mpr ⟨hfirst, hleft⟩, hfinal⟩

/-- Binding arguments where they fit keeps the terms. -/
theorem Progress.Abides.takeFitting (h : progress.Abides terms parameters)
    {arguments : List (Argument Value)} (passes : terms.Passes arguments) {variadic : Bool}
    {final : Progress} (taken : progress.takeFitting variadic arguments = some final) :
    final.Abides terms parameters := by
  induction arguments generalizing progress with
  | nil =>
    cases taken
    exact h
  | cons argument arguments ih =>
    obtain ⟨hfirst, hrest⟩ := List.forall_mem_cons.mp passes
    unfold Progress.takeFitting at taken
    split at taken
    · next next htake => exact ih (h.take? hfirst htake) hrest taken
    · split at taken
      · have hpushed : Progress.Abides terms parameters
            { progress with bound := progress.bound.pushRest argument.value } :=
          ⟨h.slots, h.bound.pushRest hfirst⟩
        exact ih hpushed hrest taken
      · cases taken

/-- Filling the open slots with kept defaults gives bindings that may be passed. -/
theorem Slot.binds_of_close? {slots : List Slot}
    (defaults : ∀ parameter ∈ slots.map Slot.parameter, ∀ default,
      parameter.missing = .substitute default → terms.Keeps default)
    {bound bindings : Bindings} (h : terms.Binds bound)
    (closed : Slot.close? slots bound = some bindings) : terms.Binds bindings := by
  induction slots generalizing bound with
  | nil =>
    cases closed
    exact h
  | cons slot slots ih =>
    rw [List.map_cons, List.forall_mem_cons] at defaults
    unfold Slot.close? at closed
    split at closed
    · exact ih defaults.2 h closed
    · split at closed
      · cases closed
      · exact ih defaults.2 h closed
      · next default hmissing =>
        exact ih defaults.2 (h.insert _ (defaults.1 default hmissing)) closed

/-- Binding passes on the arguments and the defaults. -/
theorem Function.Abides.binds {function : Function} (h : function.Abides terms)
    {arguments : List (Argument Value)} (passes : terms.Passes arguments) {bindings : Bindings}
    (bound : function.bind? arguments = some bindings) : terms.Binds bindings := by
  obtain ⟨defaults, -⟩ := h
  obtain ⟨hleft, hnamed⟩ := Progress.start_abides.takeNamed passes
  obtain ⟨final, hfitting, hclosed⟩ := Option.bind_eq_some_iff.mp bound
  have hfinal : final.Abides terms function.parameters := hnamed.takeFitting hleft hfitting
  exact Slot.binds_of_close? (hfinal.slots ▸ defaults) hfinal.bound hclosed

end Binding

/-! ### States -/

section States

variable {terms : Terms}

/-- An empty registry keeps to any terms. -/
theorem Registry.abides_empty : Registry.Abides terms {} :=
  ⟨Table.all_empty, Table.all_empty⟩

/-- Storing a kept value keeps the terms of a registry. -/
theorem Registry.Abides.setVariable {registry : Registry} (h : registry.Abides terms)
    (key : String) {value : Value} (hvalue : terms.Keeps value) :
    (registry.setVariable key value).Abides terms :=
  ⟨h.locals.insert key hvalue, h.functions⟩

/-- Removing a variable keeps the terms of a registry. -/
theorem Registry.Abides.removeVariable {registry : Registry} (h : registry.Abides terms)
    (key : String) : (registry.removeVariable key).Abides terms :=
  ⟨h.locals.erase key, h.functions⟩

/-- The functions under a key keep to the terms of their registry. -/
theorem Registry.Abides.overloads {registry : Registry} (h : registry.Abides terms) {key : String}
    {function : Function} (hmem : function ∈ registry.overloads key) : function.Abides terms := by
  unfold Registry.overloads at hmem
  cases hfound : registry.functions.get? key with
  | none =>
    rw [hfound] at hmem
    exact absurd hmem List.not_mem_nil
  | some functions =>
    rw [hfound] at hmem
    exact h.functions.get? hfound function hmem

/-- Adding a function that abides keeps the terms of a registry. -/
theorem Registry.Abides.addFunction {registry : Registry} (h : registry.Abides terms)
    (key : String) {function : Function} (hfunction : function.Abides terms) :
    (registry.addFunction key function).Abides terms := by
  refine ⟨h.locals, h.functions.insert key (fun other hmem => ?_)⟩
  rcases List.mem_append.mp hmem with hold | hnew
  · exact h.overloads hold
  · rw [List.mem_singleton.mp hnew]
    exact hfunction

/-- A change that keeps the terms of every registry keeps those of the state. -/
theorem State.Abides.update {state : State} (h : state.Abides terms) (id : Nat)
    {change : Registry → Registry}
    (hchange : ∀ registry : Registry, registry.Abides terms → (change registry).Abides terms) :
    (state.update id change).Abides terms := by
  intro other
  rcases state.store.registry_update id other change with hsame | hchanged
  · rw [State.store_update, hsame]
    exact h other
  · rw [State.store_update, hchanged]
    exact hchange _ (h other)

/-- An event has no part in the terms. -/
theorem State.Abides.log {state : State} (h : state.Abides terms) (event : Event) :
    (state.log event).Abides terms :=
  h

/-- A new registry keeps the terms of the state. -/
theorem State.Abides.extend {state : State} (h : state.Abides terms) :
    state.extend.Abides terms := by
  intro id
  rw [State.store_extend, Store.registry_extend]
  exact h id

/-- Going from one state to another keeps the terms. -/
def Preserved (terms : Terms) (state final : State) : Prop :=
  state.Abides terms → final.Abides terms

/-- Questions keep the terms. -/
theorem passage_preserved : Passage (fun _ => True) (Preserved terms) where
  refl := fun _ h => h
  trans := fun hfirst hsecond h => hsecond (hfirst h)
  asked := fun _ _ _ _ h => h

namespace Context

variable {state : State} {context : Context}

/-- A read keeps the terms. -/
theorem require_abides (h : state.Abides terms) (key : String) :
    (context.require key state).2.Abides terms :=
  require_passage passage_preserved key context (fun _ _ => trivial) state h

/-- A variable that is read is one that is kept. -/
theorem answers_require (h : state.Abides terms) (key : String) :
    terms.Answers (context.require key state).1 := by
  refine Terms.Answers.orElse ?_ (Terms.answers_failure _)
  intro value hvalue
  obtain ⟨scope, -, hbound⟩ := exists_bound_of_get hvalue
  exact (h scope.id).locals.get? hbound

/-- Writing a kept value keeps the terms. -/
theorem set_abides (h : state.Abides terms) (key : String) (global : Bool) {value : Value}
    (hvalue : terms.Keeps value) : (context.set key global value state).2.Abides terms :=
  set_passage passage_preserved (fun _ _ _ _ h => h)
    (fun _ _ _ _ _ h => h.update _ (fun _ hregistry => hregistry.setVariable key hvalue))
    (fun _ _ _ _ h => h.update _ (fun _ hregistry => hregistry.removeVariable key)) state h

/-- Registering a function that abides keeps the terms. -/
theorem register_abides (h : state.Abides terms) (name : String) {function : Function}
    (hfunction : function.Abides terms) (global : Bool) :
    (context.register name function global state).2.Abides terms :=
  register_passage passage_preserved (fun _ _ => trivial)
    (fun _ _ _ key _ h => h.update _ (fun _ hregistry => hregistry.addFunction key hfunction))
    state h

end Context

end States

/-! ### Programs that are not held to anything -/

/-- All values may be kept and all writes made. -/
def Terms.any : Terms where
  Keeps _ := True
  Writes _ := True
  keeps_of_fixed := fun _ => trivial
  keeps_ofList := fun _ => trivial
  writes_local := trivial

mutual

/-- Every function keeps to terms that ask for nothing. -/
theorem Function.abides_any : (function : Function) → function.Abides .any
  | ⟨_, _, _, _, body⟩ => .intro (fun _ _ _ _ => trivial) (Body.abides_any body)
termination_by structural function => function

/-- Every body keeps to terms that ask for nothing. -/
theorem Body.abides_any : (body : Body) → body.Abides .any
  | .native routine => .native (fun bindings _ => Routine.abides_any (routine bindings))
  | .script ⟨_, actions⟩ => .script (Action.all_abide_any actions)
termination_by structural body => body

/-- Every statement keeps to terms that ask for nothing. -/
theorem Action.abides_any : (action : Action) → action.Abides .any
  | .assign key _ value => .assign key value trivial
  | .declare name function _ => .declare name (Function.abides_any function) trivial
  | .evaluate value => .evaluate value
  | .block ⟨_, actions⟩ => .block (Action.all_abide_any actions)
termination_by structural action => action

/-- All statements of a list keep to terms that ask for nothing. -/
theorem Action.all_abide_any : (actions : List Action) → ∀ action ∈ actions, action.Abides .any
  | [] => fun _ hmem => absurd hmem List.not_mem_nil
  | action :: actions =>
    List.forall_mem_cons.mpr ⟨Action.abides_any action, Action.all_abide_any actions⟩
termination_by structural actions => actions

/-- Every native body keeps to terms that ask for nothing. -/
theorem Routine.abides_any : (routine : Routine) → routine.Abides .any
  | .done _ => .done (fun _ _ => trivial)
  | .note line next => .note line (Routine.abides_any next)
  | .inspect next => .inspect (fun snapshot => Routine.abides_any (next snapshot))
  | .resolve value next => .resolve value (fun outcome _ => Routine.abides_any (next outcome))
  | .set key _ _ next =>
    .set key trivial trivial (fun outcome => Routine.abides_any (next outcome))
  | .register name function _ next =>
    .register name (Function.abides_any function) trivial
      (fun outcome => Routine.abides_any (next outcome))
  | .invoke name _ next =>
    .invoke name (fun _ _ => trivial) (fun outcome _ => Routine.abides_any (next outcome))
  | .convert value target next =>
    .convert value target (fun outcome _ => Routine.abides_any (next outcome))
termination_by structural routine => routine

end

end GuardedScript

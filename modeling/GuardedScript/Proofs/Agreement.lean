import GuardedScript.Proofs.Blindness
import GuardedScript.Proofs.Inheritance

/-!
# Two runs side by side

A `Veil` says which variables and which functions are hidden, by their names and by the places of
their registries.  Two states are alike if they differ in hidden names only.  If the contexts in
which programs run never come to read a hidden name, and no policy looks at one, then a request has
the same outcome in alike states, leaves the same events, and ends in alike states
(`Veil.Confines.serve`).

Hidden names may well be written: both runs write the same, so that what was alike stays so.  What
has to be known of a relation between states for two runs to stay in it is a `Likeness`, and the
operations of contexts are gone through for all of them.
-/

set_option autoImplicit false

namespace GuardedScript

/-- Which names are hidden at which places. -/
structure Veil where
  locals : Nat → String → Prop
  functions : Nat → String → Prop

/-! ### Alike states -/

/-- Two registries bind the names that are not hidden at their place to the same. -/
structure Registry.Alike (veil : Veil) (id : Nat) (left right : Registry) : Prop where
  locals : ∀ key, ¬ veil.locals id key → left.locals.get? key = right.locals.get? key
  functions : ∀ key, ¬ veil.functions id key → left.functions.get? key = right.functions.get? key

/-- Two states differ in hidden names only; their traces do not count. -/
structure State.Alike (veil : Veil) (left right : State) : Prop where
  size : left.store.size = right.store.size
  nextFunction : left.nextFunction = right.nextFunction
  registries : ∀ id, (left.store.registry id).Alike veil id (right.store.registry id)

section Alike

variable {veil : Veil}

namespace Registry.Alike

variable {id : Nat} {left right : Registry}

/-- Writing the same variable to both keeps registries alike. -/
theorem setVariable (h : left.Alike veil id right) (key : String) (value : Value) :
    (left.setVariable key value).Alike veil id (right.setVariable key value) := by
  refine ⟨?_, h.functions⟩
  intro other hother
  have hlocals := h.locals other hother
  simp only [Registry.setVariable, Table.get?_insert, hlocals]

/-- Removing the same variable from both keeps registries alike. -/
theorem removeVariable (h : left.Alike veil id right) (key : String) :
    (left.removeVariable key).Alike veil id (right.removeVariable key) := by
  refine ⟨?_, h.functions⟩
  intro other hother
  have hlocals := h.locals other hother
  simp only [Registry.removeVariable, Table.get?_erase, hlocals]

/-- Under a key that is not hidden, alike registries have the same functions. -/
theorem overloads (h : left.Alike veil id right) {key : String} (hkey : ¬ veil.functions id key) :
    left.overloads key = right.overloads key := by
  unfold Registry.overloads
  rw [h.functions key hkey]

/-- Adding the same function to both keeps registries alike. -/
theorem addFunction (h : left.Alike veil id right) (key : String) (function : Function) :
    (left.addFunction key function).Alike veil id (right.addFunction key function) := by
  refine ⟨h.locals, ?_⟩
  intro other hother
  have hfunctions := h.functions other hother
  simp only [Registry.addFunction, Table.get?_insert, hfunctions]
  -- under a hidden key the lists may differ, but then nothing is asked
  by_cases hsame : key = other
  · rw [if_pos hsame, if_pos hsame, hsame, h.overloads hother]
  · rw [if_neg hsame, if_neg hsame]

end Registry.Alike

/-! A change to a hidden name goes unnoticed. -/

/-- To write a hidden variable changes nothing that is seen. -/
theorem Registry.alike_setVariable {id : Nat} {key : String} (hidden : veil.locals id key)
    (registry : Registry) (value : Value) :
    registry.Alike veil id (registry.setVariable key value) := by
  refine ⟨?_, fun _ _ => rfl⟩
  intro other hother
  have hne : key ≠ other := fun hsame => hother (hsame ▸ hidden)
  simp only [Registry.setVariable, Table.get?_insert, if_neg hne]

/-- To remove a hidden variable changes nothing that is seen. -/
theorem Registry.alike_removeVariable {id : Nat} {key : String} (hidden : veil.locals id key)
    (registry : Registry) : registry.Alike veil id (registry.removeVariable key) := by
  refine ⟨?_, fun _ _ => rfl⟩
  intro other hother
  have hne : key ≠ other := fun hsame => hother (hsame ▸ hidden)
  simp only [Registry.removeVariable, Table.get?_erase, if_neg hne]

/-- To add a function under a hidden key changes nothing that is seen. -/
theorem Registry.alike_addFunction {id : Nat} {key : String} (hidden : veil.functions id key)
    (registry : Registry) (function : Function) :
    registry.Alike veil id (registry.addFunction key function) := by
  refine ⟨fun _ _ => rfl, ?_⟩
  intro other hother
  have hne : key ≠ other := fun hsame => hother (hsame ▸ hidden)
  simp only [Registry.addFunction, Table.get?_insert, if_neg hne]

/-- A change of a registry changes that one, if it is there, and no other. -/
theorem Store.registry_update_eq (store : Store) (id other : Nat) (change : Registry → Registry) :
    (store.update id change).registry other =
      if id = other ∧ id < store.size then change (store.registry other)
      else store.registry other := by
  by_cases hsame : id = other
  · subst hsame
    by_cases hlt : id < store.size
    · rw [if_pos ⟨rfl, hlt⟩, registry_update_self change hlt]
    · have hout : store.registries.size ≤ id := Nat.not_lt.mp hlt
      rw [if_neg (fun h => hlt h.2)]
      simp [registry, update, hout]
  · rw [if_neg (fun h => hsame h.1), registry_update_of_ne store change hsame]

/-- A change to hidden names of one registry leads to an alike state. -/
theorem State.alike_update {id : Nat} {change : Registry → Registry}
    (h : ∀ registry : Registry, registry.Alike veil id (change registry)) (state : State) :
    state.Alike veil (state.update id change) := by
  refine ⟨(Store.size_update ..).symm, rfl, ?_⟩
  intro other
  rw [State.store_update, Store.registry_update_eq]
  split
  · next hhere =>
    obtain ⟨rfl, -⟩ := hhere
    exact h _
  · exact ⟨fun _ _ => rfl, fun _ _ => rfl⟩

namespace State.Alike

variable {left right : State}

/-- The same event in both traces leaves states alike. -/
theorem log (h : left.Alike veil right) (event : Event) :
    (left.log event).Alike veil (right.log event) :=
  ⟨h.size, h.nextFunction, h.registries⟩

/-- The same change to the same registry of both leaves states alike. -/
theorem update (h : left.Alike veil right) (id : Nat) {change : Registry → Registry}
    (hchange : ∀ {first second : Registry}, first.Alike veil id second →
      (change first).Alike veil id (change second)) :
    (left.update id change).Alike veil (right.update id change) := by
  refine ⟨?_, h.nextFunction, ?_⟩
  · simp only [State.store_update, Store.size_update, h.size]
  · intro other
    have hother := h.registries other
    simp only [State.store_update, Store.registry_update_eq, ← h.size]
    by_cases hhere : id = other ∧ id < left.store.size
    · rw [if_pos hhere, if_pos hhere]
      obtain ⟨rfl, -⟩ := hhere
      exact hchange hother
    · rw [if_neg hhere, if_neg hhere]
      exact hother

/-- A new registry in both leaves states alike. -/
theorem extend (h : left.Alike veil right) : left.extend.Alike veil right.extend := by
  refine ⟨?_, h.nextFunction, ?_⟩
  · simp only [State.store_extend, Store.size_extend, h.size]
  · intro id
    simp only [State.store_extend, Store.registry_extend]
    exact h.registries id

/-- Where nothing is hidden nothing differs. -/
theorem registry_eq (h : left.Alike veil right) {id : Nat} (locals : ∀ key, ¬ veil.locals id key)
    (functions : ∀ key, ¬ veil.functions id key) :
    left.store.registry id = right.store.registry id := by
  have hregistry := h.registries id
  refine Registry.ext ?_ ?_
  · exact Table.ext_get? (fun key => hregistry.locals key (locals key))
  · exact Table.ext_get? (fun key => hregistry.functions key (functions key))

/-- Alike states bind a variable that is not hidden to the same. -/
theorem locals_eq (h : left.Alike veil right) {id : Nat} {key : String}
    (visible : ¬ veil.locals id key) :
    (left.store.registry id).locals.get? key = (right.store.registry id).locals.get? key :=
  (h.registries id).locals key visible

/-- Alike states have the same functions under a key that is not hidden. -/
theorem overloads_eq (h : left.Alike veil right) {id : Nat} {key : String}
    (visible : ¬ veil.functions id key) :
    (left.store.registry id).overloads key = (right.store.registry id).overloads key :=
  (h.registries id).overloads visible

/-- States with the same store and the same count of functions are alike. -/
theorem of_store_eq (store : right.store = left.store)
    (nextFunction : right.nextFunction = left.nextFunction) : left.Alike veil right := by
  refine ⟨by rw [store], nextFunction.symm, ?_⟩
  intro id
  rw [store]
  exact ⟨fun _ _ => rfl, fun _ _ => rfl⟩

/-- What is alike to an alike state is alike. -/
theorem trans {first second third : State} (hfirst : first.Alike veil second)
    (hsecond : second.Alike veil third) : first.Alike veil third := by
  refine ⟨hfirst.size.trans hsecond.size, hfirst.nextFunction.trans hsecond.nextFunction, ?_⟩
  intro id
  have holder := hfirst.registries id
  have hnewer := hsecond.registries id
  refine ⟨?_, ?_⟩
  · intro key visible
    rw [holder.locals key visible, hnewer.locals key visible]
  · intro key visible
    rw [holder.functions key visible, hnewer.functions key visible]

end State.Alike

end Alike

/-! ### Runs that stay abreast -/

/-- A relation between states of the same size that lasts if the same is done in both. -/
structure Likeness (R : State → State → Prop) : Prop where
  size : ∀ {left right : State}, R left right → left.store.size = right.store.size
  log : ∀ {left right : State} (event : Event), R left right →
    R (left.log event) (right.log event)
  extend : ∀ {left right : State}, R left right → R left.extend right.extend
  setVariable : ∀ {left right : State} (id : Nat) (key : String) (value : Value), R left right →
    R (left.update id (fun registry => registry.setVariable key value))
      (right.update id (fun registry => registry.setVariable key value))
  removeVariable : ∀ {left right : State} (id : Nat) (key : String), R left right →
    R (left.update id (fun registry => registry.removeVariable key))
      (right.update id (fun registry => registry.removeVariable key))
  addFunction : ∀ {left right : State} (id : Nat) (key : String) (function : Function),
    R left right →
    R (left.update id (fun registry => registry.addFunction key function))
      (right.update id (fun registry => registry.addFunction key function))

/-- States that differ in hidden names only stay so. -/
theorem alike_likeness (veil : Veil) : Likeness (State.Alike veil) where
  size := State.Alike.size
  log := fun event alike => alike.log event
  extend := State.Alike.extend
  setVariable := fun id key value alike => alike.update id (fun h => h.setVariable key value)
  removeVariable := fun id key alike => alike.update id (fun h => h.removeVariable key)
  addFunction := fun id key function alike => alike.update id (fun h => h.addFunction key function)

/-- Two runs have gone on to related states and have left the same events. -/
structure Abreast (R : State → State → Prop) (lower : Nat) (left right left' right' : State) :
    Prop where
  placed : lower ≤ left'.store.size
  related : R left' right'
  events : ∃ events, left'.trace = events ++ left.trace ∧ right'.trace = events ++ right.trace

/-- From related states an operation has the same result and leads to related states. -/
def Agrees (R : State → State → Prop) (lower : Nat) {α : Type} (access : Access α) : Prop :=
  ∀ left right : State, lower ≤ left.store.size → R left right →
    (access left).1 = (access right).1 ∧
      Abreast R lower left right (access left).2 (access right).2

/-- From related states a computation has the same result, which has a property, or none, and leads
to related states. -/
def Parallel (R : State → State → Prop) (lower : Nat) {α : Type} (run : Run α) (P : α → Prop) :
    Prop :=
  ∀ left right : State, lower ≤ left.store.size → R left right →
    (run left).1 = (run right).1 ∧
      Abreast R lower left right (run left).2 (run right).2 ∧
      ∀ a, (run left).1 = some a → P a

section Abreast

variable {R : State → State → Prop} {lower : Nat} {α β : Type}

/-- Two runs that have done nothing are abreast. -/
theorem Abreast.refl {left right : State} (placed : lower ≤ left.store.size)
    (related : R left right) : Abreast R lower left right left right :=
  ⟨placed, related, [], rfl, rfl⟩

/-- Two runs that are abreast and stay so are abreast in the end. -/
theorem Abreast.trans {left right left' right' left'' right'' : State}
    (hfirst : Abreast R lower left right left' right')
    (hsecond : Abreast R lower left' right' left'' right'') :
    Abreast R lower left right left'' right'' := by
  obtain ⟨older, holderLeft, holderRight⟩ := hfirst.events
  obtain ⟨newer, hnewerLeft, hnewerRight⟩ := hsecond.events
  refine ⟨hsecond.placed, hsecond.related, newer ++ older, ?_, ?_⟩
  · rw [hnewerLeft, holderLeft, List.append_assoc]
  · rw [hnewerRight, holderRight, List.append_assoc]

/-- A result that is there already agrees. -/
theorem agrees_pure (a : α) : Agrees R lower (pure a) := by
  intro left right placed related
  exact ⟨rfl, .refl placed related⟩

/-- Two operations that agree do so one after the other. -/
theorem agrees_bind {access : Access α} {next : α → Access β} (haccess : Agrees R lower access)
    (hnext : ∀ a, Agrees R lower (next a)) : Agrees R lower (access >>= next) := by
  intro left right placed related
  obtain ⟨hsame, hfirst⟩ := haccess left right placed related
  obtain ⟨hresult, hsecond⟩ := hnext (access left).1 _ _ hfirst.placed hfirst.related
  rw [Access.bind_apply, Access.bind_apply, ← hsame]
  exact ⟨hresult, hfirst.trans hsecond⟩

/-- A change of the registry of a context agrees if related states stay so by it. -/
theorem agrees_updateRegistry {context : Context} {change : Registry → Registry}
    (hchange : ∀ {left right : State}, R left right →
      R (left.update context.id change) (right.update context.id change)) :
    Agrees R lower (context.updateRegistry change) := by
  intro left right placed related
  refine ⟨rfl, ?_, hchange related, [], rfl, rfl⟩
  show lower ≤ (left.store.update context.id change).size
  rw [Store.size_update]
  exact placed

/-- To look up functions agrees if related states have the same ones. -/
theorem agrees_overloads {scope : Context} {key : String}
    (h : ∀ {left right : State}, R left right →
      (left.store.registry scope.id).overloads key =
        (right.store.registry scope.id).overloads key) :
    Agrees R lower (scope.overloads key) := by
  intro left right placed related
  rw [Context.overloads_apply, Context.overloads_apply]
  exact ⟨h related, .refl placed related⟩

section Operations

variable (likeness : Likeness R)

include likeness

/-- To note an event agrees. -/
theorem agrees_record (event : Event) : Agrees R lower (record event) := by
  intro left right placed related
  exact ⟨rfl, placed, likeness.log event related, [event], rfl, rfl⟩

/-- A question agrees if the policies ignore what differs. -/
theorem agrees_consult {context : Context} (ignores : context.Ignores R) (check : Check) :
    Agrees R lower (context.consult check) := by
  intro left right placed related
  have hsame := ignores.decision_eq related check
  have hrecord := agrees_record likeness
    (.checked context check (context.decision right.store check)) left right placed related
  show context.decision left.store check = context.decision right.store check ∧
    Abreast R lower left right (left.asked context check) (right.asked context check)
  rw [State.asked, hsame]
  exact ⟨rfl, hrecord.2⟩

/-- The derivation of a policy agrees if the policies ignore what differs. -/
theorem agrees_consultDerivation {context : Context} (ignores : context.Ignores R)
    (function : Function) :
    Agrees R lower (context.consultDerivation function) := by
  intro left right placed related
  rw [Context.consultDerivation_apply, Context.consultDerivation_apply,
    ignores.derivation_eq related function]
  exact ⟨rfl, (agrees_record likeness _ left right placed related).2⟩

/-- What depends on a permission agrees, if what follows the answer does. -/
theorem agrees_guarded {context : Context} (ignores : context.Ignores R)
    {check : Check} {refused : Failure → Access α} {permitted : Access α}
    (hrefused : ∀ reason, Agrees R lower (refused reason))
    (hpermitted : ∀ store, context.Permits store check → Agrees R lower permitted) :
    Agrees R lower (context.guarded check refused permitted) := by
  intro left right placed related
  have hasked := (agrees_consult likeness ignores check left right placed related).2
  rcases context.refused_or_permits left.store check with ⟨reason, hreason⟩ | permits
  · have hreason' := (ignores.decision_eq related check).symm.trans hreason
    rw [Context.guarded_of_refused _ _ _ hreason, Context.guarded_of_refused _ _ _ hreason']
    obtain ⟨hresult, hgone⟩ := hrefused reason _ _ hasked.placed hasked.related
    exact ⟨hresult, hasked.trans hgone⟩
  · have permits' := ignores.permits related permits
    rw [Context.guarded_of_permits _ _ _ permits, Context.guarded_of_permits _ _ _ permits']
    obtain ⟨hresult, hgone⟩ := hpermitted left.store permits _ _ hasked.placed hasked.related
    exact ⟨hresult, hasked.trans hgone⟩

/-- Related states have the same next place for a registry. -/
theorem agrees_freshRegistry : Agrees R lower freshRegistry := by
  intro left right placed related
  refine ⟨likeness.size related, ?_, likeness.extend related, [], rfl, rfl⟩
  show lower ≤ left.store.extend.size
  rw [Store.size_extend]
  omega

/-! ### Operations of contexts -/

/-- To open a scope agrees. -/
theorem agrees_openScope (context : Context) (marker : String) :
    Agrees R lower (context.openScope marker) := by
  refine agrees_bind (agrees_freshRegistry likeness) (fun id => ?_)
  exact agrees_bind (agrees_record likeness _) (fun _ => agrees_pure _)

/-- To grant a call agrees. -/
theorem agrees_grantCall {caller : Context} (ignores : caller.Ignores R) (lookup : Option Lookup)
    (function : Function) : Agrees R lower (caller.grantCall lookup function) := by
  have hopen : ∀ policy, Agrees R lower (caller.openCall function policy) :=
    fun policy => agrees_bind (agrees_freshRegistry likeness) (fun id => agrees_pure _)
  have henter : ∀ policy, Agrees R lower (do
      let callee ← caller.openCall function policy
      record (.entered lookup caller callee)
      return .ok callee : Access (Except Failure Context)) :=
    fun policy => agrees_bind (hopen policy)
      (fun callee => agrees_bind (agrees_record likeness _) (fun _ => agrees_pure _))
  refine agrees_guarded likeness ignores (fun _ => agrees_pure _) (fun _ _ => ?_)
  refine agrees_bind (agrees_consultDerivation likeness ignores function) (fun derived => ?_)
  cases derived with
  | failure reason => exact agrees_pure _
  | success policy => exact henter _
  | empty => exact henter _

/-- A read agrees if related states bind the variable to the same in the context itself, and the
read beyond it agrees. -/
theorem agrees_get {context : Context} (ignores : context.Ignores R) {key : String}
    (h : ∀ {left right : State}, R left right →
      (left.store.registry context.id).locals.get? key =
        (right.store.registry context.id).locals.get? key)
    (hbeyond : Agrees R lower (context.getBeyond key)) :
    Agrees R lower (context.get key) := by
  rw [Context.get_eq]
  refine agrees_guarded likeness ignores (fun _ => agrees_pure _) (fun _ _ => ?_)
  intro left right placed related
  rw [Access.bind_apply, Access.bind_apply, Context.registry_apply, Context.registry_apply,
    h related]
  cases (right.store.registry context.id).locals.get? key with
  | some value => exact agrees_pure _ left right placed related
  | none => exact hbeyond left right placed related

/-- A read agrees if related states bind the variable to the same in each context that it goes
through. -/
theorem agrees_get_of_visible {context : Context} (ignores : context.Ignores R) {key : String}
    (h : ∀ scope ∈ context.ancestry, ∀ {left right : State}, R left right →
      (left.store.registry scope.id).locals.get? key =
        (right.store.registry scope.id).locals.get? key) :
    Agrees R lower (context.get key) := by
  induction context with
  | root frame =>
    exact agrees_get likeness ignores (h _ (Context.mem_ancestry_self _)) (agrees_pure _)
  | nested frame parent ih =>
    refine agrees_get likeness ignores (h _ (Context.mem_ancestry_self _)) ?_
    refine agrees_guarded likeness ignores (fun _ => agrees_pure _)
      (fun _ _ => ih ignores.parent ?_)
    intro scope hscope
    exact h scope (Context.mem_ancestry_nested hscope)

/-- A local write agrees. -/
theorem agrees_write {context : Context} (ignores : context.Ignores R) (key : String)
    (global : Bool) (value : Value) (attempt : Option (Outcome Unit)) :
    Agrees R lower (context.write key global value attempt) := by
  refine agrees_guarded likeness ignores (fun _ => agrees_pure _) (fun _ _ => ?_)
  exact agrees_bind (agrees_updateRegistry (likeness.setVariable context.id key value))
    (fun _ => agrees_pure _)

/-- A write agrees. -/
theorem agrees_set {context : Context} (ignores : context.Ignores R) (key : String)
    (global : Bool) (value : Value) :
    Agrees R lower (context.set key global value) := by
  induction context with
  | root frame => exact agrees_write likeness ignores key global value none
  | nested frame parent ih =>
    unfold Context.set
    cases global with
    | false => exact agrees_write likeness ignores key false value none
    | true =>
      refine agrees_bind (ih ignores.parent) (fun attempt => ?_)
      split
      · exact agrees_bind (agrees_updateRegistry (likeness.removeVariable frame.id key))
          (fun _ => agrees_pure _)
      · exact agrees_write likeness ignores key true value (some _)

/-- A local registration agrees. -/
theorem agrees_enlist {context : Context} (ignores : context.Ignores R) (key : String)
    (function : Function) (global : Bool) (attempt : Option (Outcome Unit)) :
    Agrees R lower (context.enlist key function global attempt) := by
  refine agrees_guarded likeness ignores (fun _ => agrees_pure _) (fun _ _ => ?_)
  exact agrees_bind (agrees_updateRegistry (likeness.addFunction context.id key function))
    (fun _ => agrees_pure _)

/-- A registration agrees. -/
theorem agrees_register {context : Context} (ignores : context.Ignores R) (name : String)
    (function : Function) (global : Bool) :
    Agrees R lower (context.register name function global) := by
  induction context generalizing name with
  | root frame => exact agrees_enlist likeness ignores (Text.key name) function global none
  | nested frame parent ih =>
    unfold Context.register
    cases global with
    | false => exact agrees_enlist likeness ignores (Text.key name) function false none
    | true =>
      refine agrees_bind
        (agrees_guarded likeness ignores (fun _ => agrees_pure _)
          (fun _ _ => ih ignores.parent (Text.key name)))
        (fun attempt => ?_)
      split
      · exact agrees_pure _
      · exact agrees_enlist likeness ignores (Text.key name) function true (some _)

end Operations

/-! ### Computations -/

variable {P : α → Prop} {Q : β → Prop}

/-- An operation that agrees is a computation whose runs are parallel. -/
theorem parallel_lift {access : Access α} (h : Agrees R lower access)
    (hP : ∀ state : State, lower ≤ state.store.size → P (access state).1) :
    Parallel R lower (liftM access) P := by
  intro left right placed related
  obtain ⟨hsame, habreast⟩ := h left right placed related
  rw [Run.lift_apply, Run.lift_apply]
  refine ⟨congrArg some hsame, habreast, ?_⟩
  intro a ha
  cases ha
  exact hP left placed

/-- A result that is there already has parallel runs. -/
theorem parallel_pure {a : α} (h : P a) : Parallel R lower (pure a) P := by
  intro left right placed related
  refine ⟨rfl, .refl placed related, ?_⟩
  intro result hresult
  cases hresult
  exact h

/-- To give no result at all is the same from all states. -/
theorem parallel_failure : Parallel R lower (failure : Run α) P := by
  intro left right placed related
  refine ⟨rfl, .refl placed related, ?_⟩
  intro result hresult
  cases hresult

/-- Two computations with parallel runs have them one after the other. -/
theorem parallel_bind {run : Run α} {next : α → Run β} (hrun : Parallel R lower run P)
    (hnext : ∀ a, P a → Parallel R lower (next a) Q) :
    Parallel R lower (run >>= next) Q := by
  intro left right placed related
  obtain ⟨hsame, hfirst, hP⟩ := hrun left right placed related
  rw [Run.bind_apply, Run.bind_apply]
  cases hleft : run left with
  | mk found left' =>
    cases hright : run right with
    | mk found' right' =>
      rw [hleft, hright] at hsame hfirst
      rw [hleft] at hP
      obtain rfl : found = found' := hsame
      cases found with
      | none => exact ⟨rfl, hfirst, fun b heq => by cases heq⟩
      | some a =>
        obtain ⟨hresult, hsecond, hQ⟩ := hnext a (hP a rfl) _ _ hfirst.placed hfirst.related
        exact ⟨hresult, hfirst.trans hsecond, hQ⟩

end Abreast

/-! ### Programs -/

/-- What policies do not look at is passed on. -/
theorem inherited_ignores (R : State → State → Prop) (lower : Nat) :
    Inherited lower (fun context => context.Ignores R) where
  scope := fun marker _ h => h.scopeAt _ marker
  call := fun _ h _ _ => h.calleeAt _ _

/-- Contexts, and what they pass on to, neither read hidden variables nor look for hidden functions,
and no policy that may be asked looks at what is hidden. -/
structure Veil.Confines (veil : Veil) (lower : Nat) (Hosts : Context → Prop) : Prop where
  inherited : Inherited lower Hosts
  ignores : ∀ {context : Context}, Hosts context → context.Ignores (State.Alike veil)
  reads : ∀ {context : Context}, Hosts context → ∀ key,
    Agrees (State.Alike veil) lower (context.get key)
  searches : ∀ {context : Context}, Hosts context → ∀ {key : String} {store : Store},
    context.Permits store (.askForFunction key) → ∀ id, ¬ veil.functions id key

section Confines

variable {veil : Veil} {lower : Nat} {Hosts : Context → Prop}
  (confines : veil.Confines lower Hosts)

include confines

/-- Agreement of two runs, as a judgement on all programs in such contexts. -/
@[reducible]
def agreement : Discipline .any where
  Index := Unit
  Holds run P := Parallel (State.Alike veil) lower (run ()) P
  Hosts := Hosts
  Asks context := context.Ignores (State.Alike veil)
  asks_around := fun hosts _ hscope => (confines.ignores hosts).of_mem hscope
  holds_pure := parallel_pure
  holds_bind := parallel_bind
  holds_consult := fun check ignores _ =>
    parallel_lift (agrees_consult (alike_likeness veil) ignores check)
      (fun state _ => ⟨state.store, rfl⟩)
  holds_note := fun _ => parallel_lift (agrees_record (alike_likeness veil) _) (fun _ _ => trivial)
  holds_openScope := fun {context} marker hosts =>
    parallel_lift (agrees_openScope (alike_likeness veil) context marker)
      (fun _ placed => confines.inherited.scope marker placed hosts)
  holds_require := fun key hosts =>
    parallel_lift (agrees_bind (confines.reads hosts key) (fun _ => agrees_pure _))
      (fun _ _ _ _ => trivial)
  holds_set := by
    intro context key global value hosts _ _
    exact parallel_lift
      (agrees_set (alike_likeness veil) (confines.ignores hosts) key global value)
      (fun _ _ => trivial)
  holds_register := by
    intro context name function global hosts _ _
    exact parallel_lift
      (agrees_register (alike_likeness veil) (confines.ignores hosts) name function global)
      (fun _ _ => trivial)

/-- Calls agree as well, so that all programs do. -/
theorem agreement_descends : (agreement confines).Descends where
  fails := parallel_failure
  overloads := by
    intro context key store hosts asked scope
    have hvisible := confines.searches hosts asked scope.id
    exact parallel_lift (agrees_overloads (fun alike => alike.overloads_eq hvisible))
      (fun _ _ function _ => function.abides_any)
  admits := by
    intro caller lookup function hosts
    refine parallel_lift
      (agrees_grantCall (alike_likeness veil) (confines.ignores hosts) lookup function)
      (fun state placed => ?_)
    refine grantCall_cases
      (P := fun result => ∀ callee, result.1 = .ok callee → Hosts callee ∧ callee.kind = _)
      (fun _ _ _ heq => by cases heq) (fun _ _ _ _ heq => by cases heq) ?_
    intro permits derived callee heq
    cases heq
    exact ⟨confines.inherited.call placed hosts permits derived, rfl⟩
  begins := fun _ _ => parallel_lift (agrees_record (alike_likeness veil) _) (fun _ _ => trivial)

/-- A request in such a context cannot tell alike states from one another. -/
theorem Veil.Confines.serve (fuel : Nat) {context : Context} (hosts : Hosts context)
    (request : Request) {left right : State} (placed : lower ≤ left.store.size)
    (alike : left.Alike veil right) :
    (request.serve (perform fuel) context left).1 =
      (request.serve (perform fuel) context right).1 ∧
      (request.serve (perform fuel) context left).2.Alike veil
        (request.serve (perform fuel) context right).2 ∧
      ∃ events,
        (request.serve (perform fuel) context left).2.trace = events ++ left.trace ∧
        (request.serve (perform fuel) context right).2.trace = events ++ right.trace := by
  have hserve := (agreement_descends confines).holds_serve fuel hosts request.abides_any
  obtain ⟨hresult, habreast, -⟩ := hserve left right placed alike
  exact ⟨hresult, habreast.related, habreast.events⟩

end Confines

end GuardedScript

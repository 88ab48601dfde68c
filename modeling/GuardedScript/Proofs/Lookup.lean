import GuardedScript.Proofs.Inheritance
import GuardedScript.Proofs.OperatorTable

/-!
# Looking up functions that only compute

A call by name asks policies, opens a context and runs a body, and all of this changes the state.
If the body is a native one that ends at once, then the registries stay as they are, and what the
call comes to can be told from them.  A search that meets no function that applies comes to nothing,
whatever the policies say (`yields_invoke_idle`).  A search through permissive contexts up to one
that has functions gives what the first of them gives (`yields_invoke_answering`).

`Yields` is the judgement: the computation has a result, and an invariant of the registries goes on.
-/

set_option autoImplicit false

namespace GuardedScript

/-- From every state with an invariant the computation ends, in a state with the invariant and with
a result that has a property. -/
def Yields (I : State → Prop) {α : Type} (run : Run α) (P : α → Prop) : Prop :=
  ∀ state, I state → ∃ a final, run state = (some a, final) ∧ I final ∧ P a

/-- An invariant of the registries: neither events nor new registries matter. -/
structure Steady (I : State → Prop) : Prop where
  log : ∀ {state : State} (event : Event), I state → I (state.log event)
  extend : ∀ {state : State}, I state → I state.extend

section Yields

variable {I : State → Prop} {α β : Type} {P : α → Prop}

/-- A result that is there already. -/
theorem yields_pure {a : α} (h : P a) : Yields I (pure a) P :=
  fun state hstate => ⟨a, state, Run.pure_apply a state, hstate, h⟩

/-- A sequence has the results of its second part. -/
theorem yields_bind {run : Run α} {next : α → Run β} {Q : β → Prop} (hrun : Yields I run P)
    (hnext : ∀ a, P a → Yields I (next a) Q) : Yields I (run >>= next) Q := by
  intro state hstate
  obtain ⟨a, middle, hfirst, hmiddle, ha⟩ := hrun state hstate
  obtain ⟨b, final, hsecond, hfinal, hb⟩ := hnext a ha middle hmiddle
  exact ⟨b, final, by rw [Run.bind_apply_of_some hfirst, hsecond], hfinal, hb⟩

/-- A result with a property has every weaker one. -/
theorem Yields.mono {Q : α → Prop} {run : Run α} (h : Yields I run P) (hle : ∀ a, P a → Q a) :
    Yields I run Q := by
  intro state hstate
  obtain ⟨a, final, hrun, hfinal, ha⟩ := h state hstate
  exact ⟨a, final, hrun, hfinal, hle a ha⟩

/-- What holds of the functions in all such states holds of those that are found. -/
theorem yields_overloads {scope : Context} {key : String} {Q : List Function → Prop}
    (h : ∀ state, I state → Q ((state.store.registry scope.id).overloads key)) :
    Yields I (liftM (scope.overloads key)) Q :=
  fun state hstate => ⟨_, state, rfl, hstate, h state hstate⟩

variable (steady : Steady I) {context : Context} {check : Check} {refused : Failure → Run α}
  {permitted : Run α}

include steady

/-- What a policy always permits is done. -/
theorem yields_guarded_of_permits (permits : ∀ store, context.Permits store check)
    (h : Yields I permitted P) : Yields I (context.guarded check refused permitted) P := by
  intro state hstate
  rw [Context.run_guarded_of_permits _ _ _ (permits state.store)]
  exact h _ (steady.log _ hstate)

/-- A result that both answers of a policy lead to. -/
theorem yields_guarded (hrefused : ∀ reason, Yields I (refused reason) P)
    (hpermitted : Yields I permitted P) : Yields I (context.guarded check refused permitted) P := by
  intro state hstate
  rcases context.refused_or_permits state.store check with ⟨reason, hreason⟩ | permits
  · rw [Context.run_guarded_of_refused _ _ _ hreason]
    exact hrefused reason _ (steady.log _ hstate)
  · rw [Context.run_guarded_of_permits _ _ _ permits]
    exact hpermitted _ (steady.log _ hstate)

end Yields

/-- Failures noted by a search make up no success. -/
theorem Refusals.success?_outcome (refusals : Refusals) : refusals.outcome.success? = none := by
  unfold outcome
  split <;> rfl

/-! ### Searches that come to nothing -/

/-- None of the functions applies to the arguments. -/
def Idle (arguments : List (Argument Value)) (functions : List Function) : Prop :=
  ∀ function ∈ functions, function.bind? arguments = none

section Idle

variable {I : State → Prop} (steady : Steady I) {perform : Evaluator} {self : Context}
  {key : String} {arguments : List (Argument Value)}

include steady

/-- Trying functions that do not apply finds nothing. -/
theorem yields_tryOverloads_idle (scope : Context) {functions : List Function}
    (idle : Idle arguments functions) (position : Nat)
    (refusals : Refusals) :
    Yields I (tryOverloads perform self scope key arguments functions position refusals)
      (fun result => ∃ refusals, result = .pending refusals) := by
  induction functions generalizing position refusals with
  | nil => exact yields_pure ⟨refusals, rfl⟩
  | cons function functions ih =>
    obtain ⟨hfirst, hrest⟩ := List.forall_mem_cons.mp idle
    have hnext := fun refusals => ih hrest (position + 1) refusals
    unfold tryOverloads
    refine yields_guarded steady (fun _ => hnext _) ?_
    rw [hfirst]
    exact hnext refusals

/-- A search among functions that do not apply has no success. -/
theorem yields_search_idle {scope : Context}
    (idle : ∀ state, I state → ∀ outer ∈ scope.ancestry,
      Idle arguments ((state.store.registry outer.id).overloads key))
    (refusals : Refusals) :
    Yields I (search perform self key arguments refusals scope)
      (fun outcome => outcome.success? = none) := by
  induction scope generalizing refusals with
  | root frame =>
    rw [search_eq]
    refine yields_bind (yields_overloads (Q := Idle arguments) (fun state hstate =>
      idle state hstate _ (Context.mem_ancestry_self _))) (fun functions hidle => ?_)
    refine yields_bind (yields_tryOverloads_idle steady _ hidle 0 refusals) ?_
    rintro _ ⟨refusals, rfl⟩
    exact yields_pure refusals.success?_outcome
  | nested frame parent ih =>
    rw [search_eq]
    refine yields_bind (yields_overloads (Q := Idle arguments) (fun state hstate =>
      idle state hstate _ (Context.mem_ancestry_self _))) (fun functions hidle => ?_)
    refine yields_bind (yields_tryOverloads_idle steady _ hidle 0 refusals) ?_
    rintro _ ⟨refusals, rfl⟩
    have hrefused := fun refusals : Refusals => refusals.success?_outcome
    refine yields_guarded steady (fun _ => yields_pure (hrefused _)) ?_
    refine yields_guarded steady (fun _ => yields_pure (hrefused _)) ?_
    exact ih (fun state hstate outer houter =>
      idle state hstate outer (Context.mem_ancestry_nested houter)) refusals

/-- A call comes to nothing if no function that it may meet applies. -/
theorem yields_invoke_idle {name : String}
    (idle : ∀ state, I state → ∀ scope ∈ self.ancestry,
      Idle arguments ((state.store.registry scope.id).overloads (Text.key name))) :
    Yields I (invoke perform self name arguments) (fun outcome => outcome.success? = none) :=
  yields_guarded steady (fun _ => yields_pure rfl) (yields_search_idle steady idle {})

end Idle

/-! ### Searches that find a function -/

/-- The functions apply to the arguments, and their native bodies end at once with a value. -/
def Answering (arguments : List (Argument Value)) (value : Value) (functions : List Function) :
    Prop :=
  ∀ function ∈ functions, ∃ bindings routine, function.bind? arguments = some bindings ∧
    function.body = .native routine ∧ routine bindings = .done (.success value)

/-- A context that is the given one or inside of it, and all contexts on the way are permissive. -/
inductive PermissiveIn (home : Context) : Context → Prop
  | home (permissive : home.policy = .permissive) : PermissiveIn home home
  | nested {frame : Frame} {parent : Context} (permissive : frame.policy = .permissive)
      (inside : PermissiveIn home parent) : PermissiveIn home (.nested frame parent)

/-- The context inside is permissive. -/
theorem PermissiveIn.policy {home context : Context} (h : PermissiveIn home context) :
    context.policy = .permissive := by
  cases h with
  | home permissive => exact permissive
  | nested permissive inside => exact permissive

/-- The context around is permissive. -/
theorem PermissiveIn.home_policy {home context : Context} (h : PermissiveIn home context) :
    home.policy = .permissive := by
  induction h with
  | home permissive => exact permissive
  | nested permissive inside ih => exact ih

section Answering

variable {I : State → Prop} (steady : Steady I) {self home : Context} {key : String}
  {arguments : List (Argument Value)} {value : Value}
  (permissive : self.policy = .permissive)

include steady permissive

/-- A call from a permissive context gives what the body of the function does. -/
theorem yields_invokeObject {function : Function} {bindings : Bindings}
    {routine : Bindings → Routine} (hbody : function.body = .native routine)
    (hdone : routine bindings = .done (.success value)) (lookup : Option Lookup) (fuel : Nat) :
    Yields I (invokeObject (perform (fuel + 1)) lookup self function bindings)
      (fun outcome => outcome = .success value) := by
  intro state hstate
  have permits := Context.permits_of_permissive permissive (.runFunction function) state.store
  have derived : ∀ reason, self.derivation state.store function ≠ .failure reason := by
    intro reason heq
    rw [Context.derivation, permissive] at heq
    cases heq
  let callee := self.calleeAt state.store function
  let called := state.called lookup self function
  have hcalled : I called :=
    steady.log _ (steady.extend (steady.log _ (steady.log _ hstate)))
  refine ⟨.success value, called.log (.began callee function), ?_, steady.log _ hcalled, rfl⟩
  rw [invokeObject_of_permits _ _ _ _ permits derived]
  -- one level of nesting is left for the body
  have hrun : runBody (perform fuel) callee function bindings =
      (pure (.success value) : Run (Outcome Value)) := by
    rw [runBody, hbody]
    show runRoutine (perform fuel) callee function (routine bindings) = _
    rw [hdone]
    rfl
  show (liftM (record (.began callee function)) >>= fun _ =>
    runBody (perform fuel) callee function bindings) called = _
  rw [hrun]
  rfl

/-- Trying functions that all give one value gives it, if there are any. -/
theorem yields_tryOverloads_answering {scope : Context} (hscope : scope.policy = .permissive)
    {functions : List Function} (answering : Answering arguments value functions)
    (present : functions ≠ []) (position : Nat) (refusals : Refusals) (fuel : Nat) :
    Yields I (tryOverloads (perform (fuel + 1)) self scope key arguments functions position
      refusals) (fun result => result = .found value) := by
  obtain ⟨function, functions, rfl⟩ := List.exists_cons_of_ne_nil present
  obtain ⟨bindings, routine, hbind, hbody, hdone⟩ := answering function (List.mem_cons_self ..)
  unfold tryOverloads
  refine yields_guarded_of_permits steady (Context.permits_of_permissive hscope _) ?_
  rw [hbind]
  refine yields_bind (yields_invokeObject steady permissive hbody hdone _ fuel) ?_
  rintro _ rfl
  exact yields_pure rfl

/-- A search through permissive contexts gives what the functions give that it meets. -/
theorem yields_search_answering {scope : Context} (inside : PermissiveIn home scope)
    (answering : ∀ state, I state → ∀ outer ∈ scope.ancestry,
      Answering arguments value ((state.store.registry outer.id).overloads key))
    (present : ∀ state, I state → (state.store.registry home.id).overloads key ≠ [])
    (refusals : Refusals) (fuel : Nat) :
    Yields I (search (perform (fuel + 1)) self key arguments refusals scope)
      (fun outcome => outcome = .success value) := by
  induction inside with
  | home hhome =>
    rw [search_eq]
    refine yields_bind (yields_overloads
      (Q := fun functions => Answering arguments value functions ∧ functions ≠ [])
      (fun state hstate =>
        ⟨answering state hstate _ (Context.mem_ancestry_self _), present state hstate⟩)) ?_
    rintro functions ⟨hanswering, hpresent⟩
    refine yields_bind (yields_tryOverloads_answering steady permissive hhome hanswering hpresent 0
      refusals fuel) ?_
    rintro _ rfl
    exact yields_pure rfl
  | @nested frame parent hframe inside ih =>
    rw [search_eq]
    refine yields_bind (yields_overloads (Q := Answering arguments value) (fun state hstate =>
      answering state hstate _ (Context.mem_ancestry_self _))) (fun functions hanswering => ?_)
    have hnested : (Context.nested frame parent).policy = .permissive := hframe
    -- a context on the way may have such functions too, or none, and then the search goes on
    by_cases hempty : functions = []
    · subst hempty
      refine yields_bind (P := fun result => result = .pending refusals) (yields_pure rfl) ?_
      rintro _ rfl
      refine yields_guarded_of_permits steady (Context.permits_of_permissive hnested _) ?_
      refine yields_guarded_of_permits steady (Context.permits_of_permissive inside.policy _) ?_
      exact ih (fun state hstate outer houter =>
        answering state hstate outer (Context.mem_ancestry_nested houter))
    · refine yields_bind (yields_tryOverloads_answering steady permissive hnested hanswering hempty
        0 refusals fuel) ?_
      rintro _ rfl
      exact yields_pure rfl

end Answering

/-- A call from inside a context that has functions, through permissive contexts, gives what these
functions give, if they all give the same. -/
theorem yields_invoke_answering {I : State → Prop} (steady : Steady I) {self home : Context}
    (inside : PermissiveIn home self) {name : String} {arguments : List (Argument Value)}
    {value : Value}
    (answering : ∀ state, I state → ∀ scope ∈ self.ancestry,
      Answering arguments value ((state.store.registry scope.id).overloads (Text.key name)))
    (present : ∀ state, I state → (state.store.registry home.id).overloads (Text.key name) ≠ [])
    (fuel : Nat) :
    Yields I (invoke (perform (fuel + 1)) self name arguments)
      (fun outcome => outcome = .success value) :=
  yields_guarded_of_permits steady (Context.permits_of_permissive inside.policy _)
    (yields_search_answering steady inside.policy inside answering present {} fuel)

/-! ### Members of the types of a value -/

section Members

variable {I : State → Prop} {perform : Evaluator} {context : Context} {kind : MemberKind}
  {member : String} {arguments : List (Argument Value)} {typeName : String}

/-- Without types there is no member. -/
theorem yields_invokeOnTypes_nil (first : Option Failure) :
    Yields I (invokeOnTypes perform context kind member arguments [] first)
      (fun outcome => outcome.success? = none) := by
  cases first with
  | none => exact yields_pure rfl
  | some reason => exact yields_pure rfl

/-- A type without a member that applies leaves it to the types above it. -/
theorem yields_invokeOnTypes_idle {typeNames : List String} {P : Outcome Value → Prop}
    (idle : Yields I (invoke perform context (MemberKey.text ⟨kind, typeName, member⟩) arguments)
      (fun outcome => outcome.success? = none))
    (above : ∀ first,
      Yields I (invokeOnTypes perform context kind member arguments typeNames first) P)
    (first : Option Failure) :
    Yields I (invokeOnTypes perform context kind member arguments (typeName :: typeNames) first)
      P := by
  refine yields_bind idle (fun outcome houtcome => ?_)
  cases outcome with
  | success value => cases houtcome
  | empty => exact above first
  | failure reason => exact above _

/-- A member of a type that applies is the answer. -/
theorem yields_invokeOnTypes_answering {value : Value}
    (answering : Yields I
      (invoke perform context (MemberKey.text ⟨kind, typeName, member⟩) arguments)
      (fun outcome => outcome = .success value))
    (typeNames : List String) (first : Option Failure) :
    Yields I (invokeOnTypes perform context kind member arguments (typeName :: typeNames) first)
      (fun outcome => outcome = .success value) := by
  refine yields_bind answering ?_
  rintro _ rfl
  exact yields_pure rfl

end Members

end GuardedScript

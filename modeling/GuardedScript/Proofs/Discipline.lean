import GuardedScript.Proofs.Admission
import GuardedScript.Proofs.Terms

/-!
# A logic for the evaluator

A `Discipline` is a judgement on computations that is closed under sequencing and holds of the
operations of contexts.  It may say that the computations keep an invariant of the state, that they
end, or that two runs of them agree.  The evaluator is gone through here once, for all disciplines:
what evaluating a value, running a statement and running a body come to is judged by what the
values, statements and calls in them come to.

Computations are indexed, so that a judgement may speak of one computation with many bounds on its
nesting.  The index plays no part here.

What a policy answers depends on the store, of which a judgement on computations knows nothing.  So
an answer is only known to be one that the policy gives in some store.
-/

set_option autoImplicit false

namespace GuardedScript

/-- A judgement on computations whose programs keep to some terms. -/
structure Discipline (terms : Terms) where
  Index : Type
  /-- The computations are as they should be, and their results have a property. -/
  Holds : {α : Type} → (Index → Run α) → (α → Prop) → Prop
  /-- The contexts in which programs run. -/
  Hosts : Context → Prop
  /-- The contexts whose policies may be asked. -/
  Asks : Context → Prop
  asks_around : ∀ {context : Context}, Hosts context → ∀ scope ∈ context.ancestry, Asks scope
  holds_pure : ∀ {α : Type} {a : α} {P : α → Prop}, P a → Holds (fun _ => pure a) P
  holds_bind : ∀ {α β : Type} {run : Index → Run α} {next : Index → α → Run β} {P : α → Prop}
    {Q : β → Prop}, Holds run P → (∀ a, P a → Holds (fun i => next i a) Q) →
    Holds (fun i => run i >>= next i) Q
  holds_consult : ∀ {context : Context} (check : Check), Asks context → check.offered? = none →
    Holds (fun _ => liftM (context.consult check))
      (fun answer => ∃ store, answer = context.decision store check)
  holds_note : ∀ line : String, Holds (fun _ => liftM (record (.noted line))) (fun _ => True)
  holds_openScope : ∀ {context : Context} (marker : String), Hosts context →
    Holds (fun _ => liftM (context.openScope marker)) Hosts
  holds_require : ∀ {context : Context} (key : String), Hosts context →
    Holds (fun _ => liftM (context.require key)) terms.Answers
  holds_set : ∀ {context : Context} (key : String) {global : Bool} {value : Value},
    Hosts context → terms.Writes global → terms.Keeps value →
    Holds (fun _ => liftM (context.set key global value)) (fun _ => True)
  holds_register : ∀ {context : Context} (name : String) {function : Function} {global : Bool},
    Hosts context → terms.Writes global → function.Abides terms →
    Holds (fun _ => liftM (context.register name function global)) (fun _ => True)

/-- The parts of a value that are evaluated before it. -/
def Value.parts : Value → List Value
  | array _ items => items
  | property receiver _ => [receiver]
  | call _ arguments => arguments.map Argument.value
  | memberCall receiver _ arguments => receiver :: arguments.map Argument.value
  | expression start operations => start :: operations.map Prod.snd
  | _ => []

namespace Discipline

variable {terms : Terms} (discipline : Discipline terms)

/-- The calls of an evaluator are as they should be, and so is looking once more at a value that has
been evaluated. -/
structure Serves (perform : discipline.Index → Evaluator) : Prop where
  invoke : ∀ {context : Context} (name : String) {arguments : List (Argument Value)},
    discipline.Hosts context → terms.Passes arguments →
    discipline.Holds (fun i => invoke (perform i) context name arguments) terms.Answers
  again : ∀ {context : Context} {value : Value}, discipline.Hosts context → terms.Keeps value →
    discipline.Holds (fun i => resolve (perform i) context value) terms.Answers

variable {discipline}

/-- A question with two ways on is as it should be if both ways are. -/
theorem holds_guarded {α : Type} {P : α → Prop} {context : Context} {check : Check}
    {refused : discipline.Index → Failure → Run α} {permitted : discipline.Index → Run α}
    (asks : discipline.Asks context) (quiet : check.offered? = none)
    (hrefused : ∀ reason, discipline.Holds (fun i => refused i reason) P)
    (hpermitted : ∀ store, context.Permits store check → discipline.Holds permitted P) :
    discipline.Holds (fun i => context.guarded check (refused i) (permitted i)) P := by
  unfold Context.guarded
  refine discipline.holds_bind (discipline.holds_consult check asks quiet) ?_
  rintro answer ⟨store, hanswer⟩
  cases answer with
  | failure reason => exact hrefused reason
  | success _ => exact hpermitted store (fun reason heq => by rw [← hanswer] at heq; cases heq)
  | empty => exact hpermitted store (fun reason heq => by rw [← hanswer] at heq; cases heq)

/-- A context in which programs run may be asked itself. -/
theorem asks_self {context : Context} (hosts : discipline.Hosts context) :
    discipline.Asks context :=
  discipline.asks_around hosts context context.mem_ancestry_self

/-! ### Values -/

section Values

variable {perform : discipline.Index → Evaluator} (serves : discipline.Serves perform)
  {context : Context}

/-- A value resolves as it should if it evaluates as it should whenever it has to. -/
theorem holds_resolve {value : Value}
    (h : value.needsEvaluation = true →
      discipline.Holds (fun i => perform i context (.evaluate value)) terms.Answers) :
    discipline.Holds (fun i => resolve (perform i) context value) terms.Answers := by
  unfold resolve
  cases hneeds : value.needsEvaluation with
  | true => exact h hneeds
  | false =>
    exact discipline.holds_pure (terms.answers_success (terms.keeps_of_fixed hneeds))

/-- A computation that goes on with the value of another one, and else passes on its outcome. -/
theorem holds_onSuccess {run : discipline.Index → Run (Outcome Value)}
    {next : discipline.Index → Value → Run (Outcome Value)}
    (hrun : discipline.Holds run terms.Answers)
    (hnext : ∀ value, terms.Keeps value →
      discipline.Holds (fun i => next i value) terms.Answers) :
    discipline.Holds (fun i => do
      match ← run i with
      | .success value => next i value
      | other => return other) terms.Answers := by
  refine discipline.holds_bind hrun (fun outcome houtcome => ?_)
  cases outcome with
  | success value => exact hnext value (houtcome value rfl)
  | empty => exact discipline.holds_pure houtcome
  | failure reason => exact discipline.holds_pure houtcome

/-- Parts are resolved in order as they should be, and those rebuilt have a property. -/
theorem holds_resolveEach {α β : Type} {value : α → Value} {rebuild : α → Value → β} {P : β → Prop}
    (hrebuild : ∀ part resolved, terms.Keeps resolved → P (rebuild part resolved))
    {parts : List α} (hparts : ∀ part ∈ parts,
      discipline.Holds (fun i => resolve (perform i) context (value part)) terms.Answers) :
    discipline.Holds (fun i => resolveEach (perform i) context value rebuild parts)
      (fun result => ∀ rest, result = .ok rest → ∀ part ∈ rest, P part) := by
  induction parts with
  | nil =>
    refine discipline.holds_pure (fun rest heq => ?_)
    cases heq
    exact fun part hmem => absurd hmem List.not_mem_nil
  | cons part parts ih =>
    obtain ⟨hfirst, hrest⟩ := List.forall_mem_cons.mp hparts
    refine discipline.holds_bind hfirst (fun outcome houtcome => ?_)
    cases hsettled : outcome.settle with
    | error reason => exact discipline.holds_pure (fun rest heq => by cases heq)
    | ok resolved =>
      refine discipline.holds_bind (ih hrest) (fun result hresult => ?_)
      cases result with
      | error reason => exact discipline.holds_pure (fun rest heq => by cases heq)
      | ok rest =>
        refine discipline.holds_pure (fun all heq => ?_)
        cases heq
        exact List.forall_mem_cons.mpr
          ⟨hrebuild part resolved (houtcome.settle hsettled), hresult rest rfl⟩

include serves

/-- Looking for a member in one type after the other is as it should be. -/
theorem holds_invokeOnTypes (hosts : discipline.Hosts context) (kind : MemberKind) (member : String)
    {arguments : List (Argument Value)} (passes : terms.Passes arguments)
    (typeNames : List String) (first : Option Failure) :
    discipline.Holds
      (fun i => invokeOnTypes (perform i) context kind member arguments typeNames first)
      terms.Answers := by
  induction typeNames generalizing first with
  | nil =>
    cases first with
    | some reason => exact discipline.holds_pure (terms.answers_failure reason)
    | none => exact discipline.holds_pure terms.answers_empty
  | cons typeName typeNames ih =>
    refine discipline.holds_bind (serves.invoke _ hosts passes) (fun outcome houtcome => ?_)
    cases outcome with
    | success value => exact discipline.holds_pure houtcome
    | empty => exact ih first
    | failure reason => exact ih _

/-- Looking for a member is as it should be. -/
theorem holds_invokeMember (hosts : discipline.Hosts context) {check : Check}
    (quiet : check.offered? = none) (action : String)
    (kind : MemberKind) (type : ValueType) (member : String) {arguments : List (Argument Value)}
    (passes : terms.Passes arguments) :
    discipline.Holds
      (fun i => invokeMember (perform i) context check action kind type member arguments)
      terms.Answers :=
  holds_guarded (asks_self hosts) quiet (fun _ => discipline.holds_pure (terms.answers_failure _))
    (fun _ _ => holds_invokeOnTypes serves hosts kind member passes _ _)

/-- Calling a member function is as it should be if resolving its receiver is. -/
theorem holds_invokeMemberFunction (hosts : discipline.Hosts context) {receiver : Value}
    (hreceiver : discipline.Holds (fun i => resolve (perform i) context receiver) terms.Answers)
    (name : String) {arguments : List (Argument Value)} (passes : terms.Passes arguments) :
    discipline.Holds
      (fun i => invokeMemberFunction (perform i) context receiver name arguments)
      terms.Answers := by
  refine holds_onSuccess hreceiver (fun found hfound => ?_)
  refine holds_invokeMember serves hosts rfl _ _ _ _ ?_
  exact List.forall_mem_cons.mpr ⟨hfound, passes⟩

/-- Reading a property is as it should be if resolving its receiver is. -/
theorem holds_readProperty (hosts : discipline.Hosts context) {receiver : Value}
    (hreceiver : discipline.Holds (fun i => resolve (perform i) context receiver) terms.Answers)
    (name : String) :
    discipline.Holds (fun i => readProperty (perform i) context receiver name) terms.Answers := by
  refine holds_onSuccess hreceiver (fun found hfound => ?_)
  refine holds_invokeMember serves hosts rfl _ _ _ _ ?_
  exact List.forall_mem_singleton.mpr hfound

/-- Applying an operator is as it should be if resolving its operands is. -/
theorem holds_applyOperator (hosts : discipline.Hosts context) {left right : Value}
    (hleft : discipline.Holds (fun i => resolve (perform i) context left) terms.Answers)
    (hright : discipline.Holds (fun i => resolve (perform i) context right) terms.Answers)
    (symbol : String) :
    discipline.Holds (fun i => applyOperator (perform i) context left symbol right)
      terms.Answers := by
  refine holds_onSuccess hleft (fun leftFound hleftFound => ?_)
  refine holds_onSuccess hright (fun rightFound hrightFound => ?_)
  refine holds_invokeMember serves hosts rfl _ _ _ _ ?_
  exact List.forall_mem_cons.mpr ⟨hleftFound, List.forall_mem_singleton.mpr hrightFound⟩

/-- Casting a value is as it should be if resolving it is. -/
theorem holds_castTo (hosts : discipline.Hosts context) {value : Value}
    (hvalue : discipline.Holds (fun i => resolve (perform i) context value) terms.Answers)
    (target : ValueType) :
    discipline.Holds (fun i => castTo (perform i) context value target) terms.Answers := by
  refine holds_onSuccess hvalue (fun found hfound => ?_)
  refine holds_invokeMember serves hosts rfl _ _ _ _ ?_
  exact List.forall_mem_singleton.mpr hfound

/-- Converting a value is as it should be if resolving it is. -/
theorem holds_convert (hosts : discipline.Hosts context) {value : Value}
    (hvalue : discipline.Holds (fun i => resolve (perform i) context value) terms.Answers)
    (target : ValueType) :
    discipline.Holds (fun i => convert (perform i) context value target) terms.Answers := by
  refine holds_onSuccess hvalue (fun found hfound => ?_)
  have hcoerce := terms.answers_coerce hfound context.options target
  cases hconverted : found.coerce context.options target with
  | empty =>
    cases found.isBlockedSentinel context.options with
    | true => exact discipline.holds_pure terms.answers_empty
    | false => exact holds_castTo serves hosts (serves.again hosts hfound) target
  | success converted =>
    exact discipline.holds_pure (hconverted ▸ hcoerce)
  | failure reason =>
    exact discipline.holds_pure (hconverted ▸ hcoerce)

/-- Applying an operator in a chain is as it should be, and its value is kept. -/
theorem holds_applyInChain (hosts : discipline.Hosts context) {left right : Value}
    (hleft : terms.Keeps left) (hright : terms.Keeps right) (operator : Operator) :
    discipline.Holds (fun i => applyInChain (perform i) context left operator right)
      terms.Keeps := by
  refine discipline.holds_bind (holds_applyOperator serves hosts (serves.again hosts hleft)
    (serves.again hosts hright) operator.symbol) (fun outcome houtcome => ?_)
  cases outcome with
  | success value => exact discipline.holds_pure (houtcome value rfl)
  | empty => exact discipline.holds_pure terms.keeps_undefined
  | failure reason => exact discipline.holds_pure terms.keeps_undefined

end Values

/-! ### Operator chains -/

section Chains

variable {apply : discipline.Index → Value → Operator → Value → Run Value}

/-- The values of a chain are kept. -/
def Chain (terms : Terms) (operations : List (Operator × Value)) : Prop :=
  ∀ part ∈ operations, terms.Keeps part.2

/-- A pass over a chain is as it should be if each application of an operator is. -/
theorem holds_pass
    (happly : ∀ left operator right, terms.Keeps left → terms.Keeps right →
      discipline.Holds (fun i => apply i left operator right) terms.Keeps)
    (tier : Tier) {pending : List (Operator × Value)} (hpending : Chain terms pending)
    {accumulator : Value} (haccumulator : terms.Keeps accumulator)
    {carried : List (Operator × Value)} (hcarried : Chain terms carried) :
    discipline.Holds (fun i => Reduction.pass (apply i) tier accumulator carried pending)
      (fun result => terms.Keeps result.1 ∧ Chain terms result.2) := by
  induction pending generalizing accumulator carried with
  | nil =>
    refine discipline.holds_pure ⟨haccumulator, ?_⟩
    intro part hmem
    exact hcarried part (List.mem_reverse.mp hmem)
  | cons operation pending ih =>
    obtain ⟨operator, operand⟩ := operation
    obtain ⟨hoperand, hrest⟩ := List.forall_mem_cons.mp hpending
    unfold Reduction.pass
    by_cases htier : operator.tier = tier
    · simp only [if_pos htier]
      cases carried with
      | nil =>
        refine discipline.holds_bind (happly _ _ _ haccumulator hoperand) (fun combined h => ?_)
        exact ih hrest h hcarried
      | cons previous carried =>
        obtain ⟨hprevious, hothers⟩ := List.forall_mem_cons.mp hcarried
        refine discipline.holds_bind (happly _ _ _ hprevious hoperand) (fun combined h => ?_)
        exact ih hrest haccumulator (List.forall_mem_cons.mpr ⟨h, hothers⟩)
    · simp only [if_neg htier]
      exact ih hrest haccumulator (List.forall_mem_cons.mpr ⟨hoperand, hcarried⟩)

/-- Reducing a chain tier by tier is as it should be if each application of an operator is. -/
theorem holds_reduceTiers
    (happly : ∀ left operator right, terms.Keeps left → terms.Keeps right →
      discipline.Holds (fun i => apply i left operator right) terms.Keeps)
    (tiers : List Tier) {accumulator : Value} (haccumulator : terms.Keeps accumulator)
    {pending : List (Operator × Value)} (hpending : Chain terms pending) :
    discipline.Holds (fun i => Reduction.reduceTiers (apply i) tiers accumulator pending)
      (fun result => terms.Keeps result.1) := by
  induction tiers generalizing accumulator pending with
  | nil => exact discipline.holds_pure haccumulator
  | cons tier tiers ih =>
    unfold Reduction.reduceTiers
    cases pending.isEmpty with
    | true => exact discipline.holds_pure haccumulator
    | false =>
      have hcarried : Chain terms [] := fun part hmem => absurd hmem List.not_mem_nil
      exact discipline.holds_bind (holds_pass happly tier hpending haccumulator hcarried)
        (fun result hresult => ih hresult.1 hresult.2)

end Chains

/-! ### Evaluation -/

section Evaluation

variable {perform : discipline.Index → Evaluator} (serves : discipline.Serves perform)
  {context : Context} (hosts : discipline.Hosts context)

/-- A computation that goes on with the value of another one, where nothing counts as undefined. -/
theorem holds_onSettled {run : discipline.Index → Run (Outcome Value)}
    {next : discipline.Index → Value → Run (Outcome Value)}
    (hrun : discipline.Holds run terms.Answers)
    (hnext : ∀ value, terms.Keeps value →
      discipline.Holds (fun i => next i value) terms.Answers) :
    discipline.Holds (fun i => do
      match (← run i).settle with
      | .error reason => return .failure reason
      | .ok value => next i value) terms.Answers := by
  refine discipline.holds_bind hrun (fun outcome houtcome => ?_)
  cases hsettled : outcome.settle with
  | error reason => exact discipline.holds_pure (terms.answers_failure reason)
  | ok value => exact hnext value (houtcome.settle hsettled)

/-- A computation whose lack of an answer counts as a failure. -/
theorem holds_orFailure {run : discipline.Index → Run (Outcome Value)}
    (hrun : discipline.Holds run terms.Answers) (reason : Failure) :
    discipline.Holds (fun i => do
      let outcome ← run i
      return outcome.orElse (.failure reason)) terms.Answers :=
  discipline.holds_bind hrun (fun _ houtcome =>
    discipline.holds_pure (houtcome.orElse (terms.answers_failure reason)))

include serves hosts

/-- Evaluating a chain is as it should be if resolving its operands is. -/
theorem holds_evaluateChain {start : Value} {operations : List (Operator × Value)}
    (hstart : discipline.Holds (fun i => resolve (perform i) context start) terms.Answers)
    (hoperations : ∀ part ∈ operations,
      discipline.Holds (fun i => resolve (perform i) context part.2) terms.Answers) :
    discipline.Holds (fun i => evaluateChain (perform i) (applyInChain (perform i) context) context
      start operations) terms.Answers := by
  refine holds_onSettled hstart (fun first hfirst => ?_)
  refine discipline.holds_bind
    (holds_resolveEach (P := fun part => terms.Keeps part.2) (fun _ _ h => h) hoperations)
    (fun result hresult => ?_)
  cases result with
  | error reason => exact discipline.holds_pure (terms.answers_failure reason)
  | ok rest =>
    refine discipline.holds_bind (holds_reduceTiers
      (fun _ operator _ hleft hright => holds_applyInChain serves hosts hleft hright operator)
      Tier.all hfirst (hresult rest rfl)) (fun reduced hreduced => ?_)
    exact discipline.holds_pure (terms.answers_success hreduced)

/-- Evaluating a call is as it should be if resolving its receiver and its arguments is. -/
theorem holds_evaluateCall {receiver : Option Value} (name : String)
    {arguments : List (Argument Value)}
    (hreceiver : ∀ value, receiver = some value →
      discipline.Holds (fun i => resolve (perform i) context value) terms.Answers)
    (harguments : ∀ argument ∈ arguments,
      discipline.Holds (fun i => resolve (perform i) context argument.value) terms.Answers) :
    discipline.Holds (fun i => evaluateCall (perform i) context receiver name arguments)
      terms.Answers := by
  refine discipline.holds_bind
    (holds_resolveEach (P := fun argument => terms.Keeps argument.value) (fun _ _ h => h)
      harguments)
    (fun result hresult => ?_)
  cases result with
  | error reason => exact discipline.holds_pure (terms.answers_failure reason)
  | ok passed =>
    have hpassed : terms.Passes passed := hresult passed rfl
    cases receiver with
    | none => exact holds_orFailure (serves.invoke name hosts hpassed) _
    | some receiver =>
      refine holds_onSettled (hreceiver receiver rfl) (fun found hfound => ?_)
      exact holds_orFailure
        (holds_invokeMemberFunction serves hosts (serves.again hosts hfound) name hpassed) _

/-- Evaluating a property is as it should be if resolving its receiver is. -/
theorem holds_evaluateProperty {receiver : Value} (name : String)
    (hreceiver : discipline.Holds (fun i => resolve (perform i) context receiver) terms.Answers) :
    discipline.Holds (fun i => evaluateProperty (perform i) context receiver name)
      terms.Answers := by
  refine holds_onSettled hreceiver (fun found hfound => ?_)
  exact holds_orFailure (holds_readProperty serves hosts (serves.again hosts hfound) name) _

/-- Evaluating a value is as it should be if evaluating its parts is. -/
theorem holds_evaluateStep {value : Value}
    (hparts : ∀ part ∈ value.parts,
      discipline.Holds (fun i => resolve (perform i) context part) terms.Answers) :
    discipline.Holds (fun i => evaluateStep (perform i) context value) terms.Answers := by
  have hfixed : ∀ fixed : Value, fixed.needsEvaluation = false →
      discipline.Holds (fun _ => pure (.success fixed)) terms.Answers :=
    fun fixed h => discipline.holds_pure (terms.answers_success (terms.keeps_of_fixed h))
  cases value with
  | int n => exact hfixed _ rfl
  | double d => exact hfixed _ rfl
  | char c => exact hfixed _ rfl
  | string s => exact hfixed _ rfl
  | boolean b => exact hfixed _ rfl
  | null => exact hfixed _ rfl
  | undefined => exact hfixed _ rfl
  | array dynamic items =>
    refine discipline.holds_bind (holds_resolveEach (P := terms.Keeps) (fun _ _ h => h) hparts)
      (fun result hresult => ?_)
    cases result with
    | error reason => exact discipline.holds_pure (terms.answers_failure reason)
    | ok items =>
      exact discipline.holds_pure (terms.answers_success (terms.keeps_ofList (hresult items rfl)))
  | reference name => exact discipline.holds_require name hosts
  | property receiver name =>
    exact holds_evaluateProperty serves hosts name (hparts receiver (List.mem_singleton_self _))
  | call name arguments =>
    show discipline.Holds (fun i => evaluateCall (perform i) context none name arguments) _
    refine holds_evaluateCall serves hosts name (fun value heq => by cases heq) ?_
    exact fun argument hmem => hparts _ (List.mem_map_of_mem hmem)
  | memberCall receiver name arguments =>
    show discipline.Holds
      (fun i => evaluateCall (perform i) context (some receiver) name arguments) _
    refine holds_evaluateCall serves hosts name (fun value heq => ?_) ?_
    · cases heq
      exact hparts _ (List.mem_cons_self ..)
    · exact fun argument hmem => hparts _ (List.mem_cons_of_mem _ (List.mem_map_of_mem hmem))
  | expression start operations =>
    refine holds_evaluateChain serves hosts (hparts _ (List.mem_cons_self ..)) ?_
    exact fun part hmem => hparts _ (List.mem_cons_of_mem _ (List.mem_map_of_mem hmem))

end Evaluation

/-! ### Statements and bodies -/

section Bodies

variable {perform : discipline.Index → Evaluator} {context : Context}

/-- Running statements in order is as it should be if each of them is. -/
theorem holds_runActions {actions : List Action}
    (hactions : ∀ action ∈ actions,
      discipline.Holds (fun i => perform i context (.act action)) terms.Answers)
    {result : Value} (hresult : terms.Keeps result) :
    discipline.Holds (fun i => runActions (perform i) context actions result) terms.Answers := by
  induction actions generalizing result with
  | nil => exact discipline.holds_pure (terms.answers_success hresult)
  | cons action actions ih =>
    obtain ⟨hfirst, hrest⟩ := List.forall_mem_cons.mp hactions
    refine discipline.holds_bind hfirst (fun outcome houtcome => ?_)
    cases outcome with
    | success value =>
      refine ih hrest ?_
      cases action.isEvaluate with
      | true => exact houtcome value rfl
      | false => exact hresult
    | empty => exact ih hrest hresult
    | failure reason => exact discipline.holds_pure (terms.answers_failure reason)

/-- Running a block is as it should be if its statements are in every scope. -/
theorem holds_runBlock (hosts : discipline.Hosts context) {block : Block}
    (hactions : ∀ scope, discipline.Hosts scope → ∀ action ∈ block.actions,
      discipline.Holds (fun i => perform i scope (.act action)) terms.Answers) :
    discipline.Holds (fun i => runBlock (perform i) context block) terms.Answers :=
  discipline.holds_bind (discipline.holds_openScope block.marker hosts)
    (fun scope hscope => holds_runActions (hactions scope hscope) terms.keeps_undefined)

/-- A statement is as it should be if its value is and, in every scope, the statements in it are. -/
theorem holds_actStep (hosts : discipline.Hosts context)
    (hresolve : ∀ value, discipline.Holds (fun i => resolve (perform i) context value)
      terms.Answers)
    {action : Action} (abides : action.Abides terms)
    (hblock : ∀ block, action = .block block → ∀ scope, discipline.Hosts scope →
      ∀ inner ∈ block.actions,
      discipline.Holds (fun i => perform i scope (.act inner)) terms.Answers) :
    discipline.Holds (fun i => actStep (perform i) context action) terms.Answers := by
  have hdone : ∀ outcome : Outcome Unit, discipline.Holds
      (fun _ => pure (outcome.map (fun _ => Value.undefined))) terms.Answers := by
    intro outcome
    refine discipline.holds_pure ?_
    cases outcome with
    | success _ => exact terms.answers_success terms.keeps_undefined
    | empty => exact terms.answers_empty
    | failure reason => exact terms.answers_failure reason
  cases abides with
  | assign key value writes =>
    refine holds_onSettled (hresolve value) (fun found hfound => ?_)
    exact discipline.holds_bind (discipline.holds_set key hosts writes hfound)
      (fun outcome _ => hdone outcome)
  | declare name abides writes =>
    exact discipline.holds_bind (discipline.holds_register name hosts writes abides)
      (fun outcome _ => hdone outcome)
  | evaluate value =>
    refine discipline.holds_bind (hresolve value) (fun outcome houtcome => ?_)
    exact discipline.holds_pure
      (houtcome.orElse (terms.answers_success terms.keeps_undefined))
  | block _ => exact holds_runBlock hosts (hblock _ rfl)

/-- Binding variables one after the other is as it should be. -/
theorem holds_setAll (hosts : discipline.Hosts context) {named : List (String × Value)}
    (hnamed : ∀ binding ∈ named, terms.Keeps binding.2) :
    discipline.Holds (fun _ => liftM (context.setAll named)) (fun _ => True) := by
  induction named with
  | nil => exact discipline.holds_pure trivial
  | cons binding named ih =>
    obtain ⟨hfirst, hrest⟩ := List.forall_mem_cons.mp hnamed
    unfold Context.setAll
    simp only [Run.lift_bind]
    refine discipline.holds_bind
      (discipline.holds_set binding.1 hosts terms.writes_local hfirst) (fun outcome _ => ?_)
    cases outcome with
    | success _ => exact ih hrest
    | empty => exact ih hrest
    | failure reason => exact discipline.holds_pure trivial

/-- Binding the arguments of a script function is as it should be. -/
theorem holds_bindLocals (hosts : discipline.Hosts context) (variadic : Bool)
    {named : List (String × Value)} (hnamed : ∀ binding ∈ named, terms.Keeps binding.2)
    {rest : List Value} (hrest : ∀ value ∈ rest, terms.Keeps value) :
    discipline.Holds (fun _ => liftM (bindLocals context variadic named rest))
      (fun _ => True) := by
  have hset := discipline.holds_set restVariable hosts terms.writes_local (terms.keeps_ofList hrest)
  unfold bindLocals
  simp only [Run.lift_bind]
  refine discipline.holds_bind (holds_setAll hosts hnamed) (fun outcome _ => ?_)
  cases outcome with
  | failure reason => exact discipline.holds_pure trivial
  | success _ =>
    cases variadic with
    | true => exact hset
    | false => exact discipline.holds_pure trivial
  | empty =>
    cases variadic with
    | true => exact hset
    | false => exact discipline.holds_pure trivial

/-- A native body is as it should be if resolving values is. -/
theorem holds_runRoutine (serves : discipline.Serves perform) (hosts : discipline.Hosts context)
    (hresolve : ∀ value, discipline.Holds (fun i => resolve (perform i) context value)
      terms.Answers)
    (function : Function) (routine : Routine) (abides : routine.Abides terms) :
    discipline.Holds (fun i => runRoutine (perform i) context function routine)
      terms.Answers := by
  -- the recursion is that of `runRoutine`
  cases routine with
  | done outcome =>
    cases abides with
    | done answers => exact discipline.holds_pure answers
  | note line next =>
    cases abides with
    | note _ rest =>
      exact discipline.holds_bind (discipline.holds_note line)
        (fun _ _ => holds_runRoutine serves hosts hresolve function next rest)
  | inspect next =>
    cases abides with
    | inspect rest =>
      exact holds_runRoutine serves hosts hresolve function
        (next (context.snapshot function)) (rest _)
  | resolve value next =>
    cases abides with
    | resolve _ rest =>
      refine discipline.holds_bind (hresolve value) (fun outcome h => ?_)
      exact holds_runRoutine serves hosts hresolve function (next outcome) (rest outcome h)
  | set key global value next =>
    cases abides with
    | set _ writes keeps rest =>
      refine discipline.holds_bind (discipline.holds_set key hosts writes keeps)
        (fun outcome _ => ?_)
      exact holds_runRoutine serves hosts hresolve function (next outcome) (rest outcome)
  | register name registered global next =>
    cases abides with
    | register _ abides writes rest =>
      refine discipline.holds_bind (discipline.holds_register name hosts writes abides)
        (fun outcome _ => ?_)
      exact holds_runRoutine serves hosts hresolve function (next outcome) (rest outcome)
  | invoke name arguments next =>
    cases abides with
    | invoke _ passes rest =>
      refine discipline.holds_bind (serves.invoke name hosts passes) (fun outcome h => ?_)
      exact holds_runRoutine serves hosts hresolve function (next outcome) (rest outcome h)
  | convert value target next =>
    cases abides with
    | convert _ _ rest =>
      refine discipline.holds_bind (holds_convert serves hosts (hresolve value) target)
        (fun outcome h => ?_)
      exact holds_runRoutine serves hosts hresolve function (next outcome) (rest outcome h)
termination_by structural routine

/-- The body of a function is as it should be if what it evaluates and its statements are. -/
theorem holds_runBody (serves : discipline.Serves perform) (hosts : discipline.Hosts context)
    (hresolve : ∀ value, discipline.Holds (fun i => resolve (perform i) context value)
      terms.Answers)
    (hact : ∀ action : Action, action.Abides terms →
      discipline.Holds (fun i => perform i context (.act action)) terms.Answers)
    {function : Function} (abides : function.Abides terms) {bindings : Bindings}
    (binds : terms.Binds bindings) :
    discipline.Holds (fun i => runBody (perform i) context function bindings) terms.Answers := by
  obtain ⟨-, hbody⟩ := abides
  unfold runBody
  cases hfunction : function.body with
  | native routine =>
    rw [hfunction] at hbody
    cases hbody with
    | native routines =>
      exact holds_runRoutine serves hosts hresolve function _ (routines bindings binds)
  | script block =>
    rw [hfunction] at hbody
    cases hbody with
    | script actions =>
      have hblock := holds_runActions (fun action hmem => hact action (actions action hmem))
        terms.keeps_undefined
      refine discipline.holds_bind
        (holds_bindLocals hosts function.variadic binds.1 binds.2) (fun outcome _ => ?_)
      cases outcome with
      | failure reason => exact discipline.holds_pure (terms.answers_failure reason)
      | success _ => exact hblock
      | empty => exact hblock

end Bodies

/-! ### Calls -/

section Calls

variable {perform : discipline.Index → Evaluator} {self : Context} {key : String}
  {arguments : List (Argument Value)}

/-- A call is as it should be if the caller admits it as it should and the body runs as it should in
every context that it may be admitted to. -/
theorem holds_invokeObject {lookup : Option Lookup} {function : Function} {bindings : Bindings}
    {Admitted : Context → Prop}
    (hgrant : discipline.Holds (fun _ => liftM (self.grantCall lookup function))
      (fun admitted => ∀ callee, admitted = .ok callee → Admitted callee))
    (hbody : ∀ callee, Admitted callee →
      discipline.Holds (fun i => perform i callee (.run function bindings)) terms.Answers) :
    discipline.Holds (fun i => invokeObject (perform i) lookup self function bindings)
      terms.Answers := by
  simp only [invokeObject_eq_grantCall]
  refine discipline.holds_bind hgrant (fun admitted hadmitted => ?_)
  cases admitted with
  | error reason => exact discipline.holds_pure (terms.answers_failure reason)
  | ok callee => exact hbody callee (hadmitted callee rfl)

/-- What is left of a search without success may be an answer. -/
theorem answers_refusals (refusals : Refusals) : terms.Answers refusals.outcome := by
  unfold Refusals.outcome
  cases refusals.invoked.or refusals.denied with
  | some reason => exact terms.answers_failure reason
  | none => exact terms.answers_empty

section Search

variable (hcall : ∀ (lookup : Option Lookup) (function : Function) (bindings : Bindings),
    function.Abides terms → terms.Binds bindings →
    discipline.Holds (fun i => invokeObject (perform i) lookup self function bindings)
      terms.Answers)
  (passes : terms.Passes arguments)

include hcall passes

/-- Trying the functions of a context is as it should be if calling them is. -/
theorem holds_tryOverloads {scope : Context} (asks : discipline.Asks scope)
    {functions : List Function}
    (hfunctions : ∀ function ∈ functions, function.Abides terms) (position : Nat)
    (refusals : Refusals) :
    discipline.Holds
      (fun i => tryOverloads (perform i) self scope key arguments functions position refusals)
      (fun result => ∀ value, result = .found value → terms.Keeps value) := by
  induction functions generalizing position refusals with
  | nil => exact discipline.holds_pure (fun value heq => by cases heq)
  | cons function functions ih =>
    obtain ⟨hfirst, hrest⟩ := List.forall_mem_cons.mp hfunctions
    have hnext := fun refusals => ih hrest (position + 1) refusals
    unfold tryOverloads
    refine holds_guarded asks rfl (fun _ => hnext _) (fun _ _ => ?_)
    cases hbound : function.bind? arguments with
    | none => exact hnext refusals
    | some bindings =>
      refine discipline.holds_bind (hcall _ function bindings hfirst (hfirst.binds passes hbound))
        (fun outcome houtcome => ?_)
      cases outcome with
      | success value =>
        refine discipline.holds_pure (fun other heq => ?_)
        cases heq
        exact houtcome value rfl
      | empty => exact hnext refusals
      | failure reason => exact hnext _

/-- A search is as it should be if it is beyond its first context. -/
theorem holds_search_of_beyond {scope : Context} (asks : discipline.Asks scope)
    (hoverloads : discipline.Holds (fun _ => liftM (scope.overloads key))
      (fun functions => ∀ function ∈ functions, function.Abides terms))
    (hbeyond : ∀ refusals, discipline.Holds
      (fun i => searchBeyond (perform i) self key arguments refusals scope) terms.Answers)
    (refusals : Refusals) :
    discipline.Holds (fun i => search (perform i) self key arguments refusals scope)
      terms.Answers := by
  simp only [search_eq]
  refine discipline.holds_bind hoverloads (fun functions hfunctions => ?_)
  refine discipline.holds_bind (holds_tryOverloads hcall passes asks hfunctions 0 refusals)
    (fun result hresult => ?_)
  cases result with
  | found value => exact discipline.holds_pure (terms.answers_success (hresult value rfl))
  | pending refusals => exact hbeyond refusals

/-- A search is as it should be if looking up and calling functions is. -/
theorem holds_search
    (hoverloads : ∀ (scope : Context) (store : Store), scope.Permits store (.askForFunction key) →
      discipline.Holds (fun _ => liftM (scope.overloads key))
        (fun functions => ∀ function ∈ functions, function.Abides terms))
    {scope : Context} {store : Store} (asks : ∀ outer ∈ scope.ancestry, discipline.Asks outer)
    (asked : scope.Permits store (.askForFunction key)) (refusals : Refusals) :
    discipline.Holds (fun i => search (perform i) self key arguments refusals scope)
      terms.Answers := by
  induction scope generalizing store refusals with
  | root frame =>
    exact holds_search_of_beyond hcall passes (asks _ (Context.mem_ancestry_self _))
      (hoverloads _ _ asked)
      (fun refusals => discipline.holds_pure (answers_refusals refusals)) refusals
  | nested frame parent ih =>
    have hself : discipline.Asks (.nested frame parent) := asks _ (Context.mem_ancestry_self _)
    have houter : ∀ outer ∈ parent.ancestry, discipline.Asks outer :=
      fun outer houter => asks outer (Context.mem_ancestry_nested houter)
    refine holds_search_of_beyond hcall passes hself (hoverloads _ _ asked) (fun refusals => ?_)
      refusals
    refine holds_guarded hself rfl (fun _ => discipline.holds_pure (answers_refusals _))
      (fun _ _ => ?_)
    exact holds_guarded (houter _ (Context.mem_ancestry_self _)) rfl
      (fun _ => discipline.holds_pure (answers_refusals _))
      (fun _ askedParent => ih houter askedParent refusals)

end Search

/-- Calls by name are as they should be if the functions under the key keep to the terms and calls
of such functions are as they should be. -/
theorem holds_invoke (hosts : discipline.Hosts self) (name : String)
    (hoverloads : ∀ (scope : Context) (store : Store),
      scope.Permits store (.askForFunction (Text.key name)) →
      discipline.Holds (fun _ => liftM (scope.overloads (Text.key name)))
        (fun functions => ∀ function ∈ functions, function.Abides terms))
    (hcall : ∀ (lookup : Option Lookup) (function : Function) (bindings : Bindings),
      function.Abides terms → terms.Binds bindings →
      discipline.Holds (fun i => invokeObject (perform i) lookup self function bindings)
        terms.Answers)
    (passes : terms.Passes arguments) :
    discipline.Holds (fun i => invoke (perform i) self name arguments) terms.Answers :=
  holds_guarded (asks_self hosts) rfl (fun _ => discipline.holds_pure (terms.answers_failure _))
    (fun _ asked => holds_search hcall passes hoverloads (discipline.asks_around hosts) asked {})

end Calls

/-! ### Requests -/

/-- All tasks but the bodies of functions are performed as they should be. -/
structure Performs (discipline : Discipline terms) (perform : discipline.Index → Evaluator) :
    Prop where
  evaluate : ∀ {context : Context} (value : Value), discipline.Hosts context →
    discipline.Holds (fun i => perform i context (.evaluate value)) terms.Answers
  act : ∀ {context : Context} {action : Action}, discipline.Hosts context → action.Abides terms →
    discipline.Holds (fun i => perform i context (.act action)) terms.Answers

/-- Where tasks are performed as they should be, values resolve as they should. -/
theorem Performs.resolve {perform : discipline.Index → Evaluator}
    (performs : discipline.Performs perform) {context : Context} (hosts : discipline.Hosts context)
    (value : Value) :
    discipline.Holds (fun i => GuardedScript.resolve (perform i) context value) terms.Answers :=
  holds_resolve (fun _ => performs.evaluate value hosts)

end Discipline

/-- A request of which everything that is stored or passed keeps to the terms. -/
def Request.Abides (terms : Terms) : Request → Prop
  | .act action => action.Abides terms
  | .block body => ∀ action ∈ body.actions, action.Abides terms
  | .invoke _ arguments => terms.Passes arguments
  | .member _ _ arguments => terms.Passes arguments
  | _ => True

/-- All requests are served as they should be if calls and tasks are. -/
theorem Discipline.holds_serve {terms : Terms} {discipline : Discipline terms}
    {perform : discipline.Index → Evaluator} (serves : discipline.Serves perform)
    (performs : discipline.Performs perform) {context : Context} (hosts : discipline.Hosts context)
    {request : Request} (abides : request.Abides terms) :
    discipline.Holds (fun i => request.serve (perform i) context) terms.Answers := by
  have hresolve := fun value : Value => performs.resolve hosts value
  cases request with
  | evaluate value => exact performs.evaluate value hosts
  | resolve value => exact hresolve value
  | act action => exact performs.act hosts abides
  | block block =>
    exact holds_runBlock hosts (fun scope hscope action hmem =>
      performs.act hscope (abides action hmem))
  | invoke name arguments => exact serves.invoke name hosts abides
  | member receiver name arguments =>
    exact holds_invokeMemberFunction serves hosts (hresolve receiver) name abides
  | property receiver name => exact holds_readProperty serves hosts (hresolve receiver) name
  | operator left symbol right =>
    exact holds_applyOperator serves hosts (hresolve left) (hresolve right) symbol
  | cast value target => exact holds_castTo serves hosts (hresolve value) target
  | convert value target => exact holds_convert serves hosts (hresolve value) target

/-! ### Safety

A discipline may judge single runs by where they lead, whether they end or run out of fuel.
-/

/-- From a state with an invariant the run leads along a relation to a state with the invariant, and
if it ends then its result has a property. -/
def Along (I : State → Prop) (R : State → State → Prop) {α : Type} (run : Run α) (P : α → Prop) :
    Prop :=
  ∀ state, I state →
    R state (run state).2 ∧ I (run state).2 ∧ ∀ a, (run state).1 = some a → P a

section Along

variable {I : State → Prop} {R : State → State → Prop} {α β : Type} {P : α → Prop}

/-- An operation that always ends leads along a relation if it does from every state. -/
theorem along_lift {access : Access α}
    (h : ∀ state, I state →
      R state (access state).2 ∧ I (access state).2 ∧ P (access state).1) :
    Along I R (liftM access) P := by
  intro state hstate
  obtain ⟨hR, hI, hP⟩ := h state hstate
  refine ⟨hR, hI, fun a heq => ?_⟩
  rw [Run.lift_apply] at heq
  cases heq
  exact hP

/-- A result alone leads nowhere. -/
theorem along_pure (refl : ∀ state, R state state) {a : α} (h : P a) :
    Along I R (pure a) P := by
  intro state hstate
  refine ⟨refl state, hstate, fun b heq => ?_⟩
  cases heq
  exact h

/-- A run without fuel leads nowhere. -/
theorem along_failure (refl : ∀ state, R state state) : Along I R failure P := by
  intro state hstate
  exact ⟨refl state, hstate, fun a heq => by cases heq⟩

/-- A sequence leads along a relation if its parts do. -/
theorem along_bind (trans : ∀ first second third, R first second → R second third →
    R first third) {run : Run α} {next : α → Run β} {Q : β → Prop} (hrun : Along I R run P)
    (hnext : ∀ a, P a → Along I R (next a) Q) : Along I R (run >>= next) Q := by
  intro state hstate
  obtain ⟨hR, hI, hP⟩ := hrun state hstate
  rw [Run.bind_apply]
  cases hreached : run state with
  | mk found reached =>
    rw [hreached] at hR hI hP
    cases found with
    | none => exact ⟨hR, hI, fun b heq => by cases heq⟩
    | some a =>
      obtain ⟨hR', hI', hQ⟩ := hnext a (hP a rfl) reached hI
      exact ⟨trans _ _ _ hR hR', hI', hQ⟩

/-- To grant a call leads along a relation if its questions do, and the opening of its context. -/
theorem along_grantCall {Hosts : Context → Prop} {caller : Context} {lookup : Option Lookup}
    {function : Function} (trans : ∀ first second third, R first second → R second third →
      R first third)
    (hasked : ∀ state, I state → R state (state.asked caller (.runFunction function)) ∧
      I (state.asked caller (.runFunction function)))
    (hderived : ∀ state answer, I state → R state (state.log (.derived caller function answer)) ∧
      I (state.log (.derived caller function answer)))
    (hentered : ∀ state, I state → caller.Permits state.store (.runFunction function) →
      (∀ reason, caller.derivation state.store function ≠ .failure reason) →
      R state (state.extend.log (.entered lookup caller (caller.calleeAt state.store function))) ∧
        I (state.extend.log (.entered lookup caller (caller.calleeAt state.store function))) ∧
        Hosts (caller.calleeAt state.store function)) :
    Along I R (liftM (caller.grantCall lookup function))
      (fun admitted => ∀ callee, admitted = .ok callee →
        Hosts callee ∧ callee.kind = .call function) := by
  refine along_lift (fun state hstate => ?_)
  obtain ⟨hfirst, hI⟩ := hasked state hstate
  have hboth : ∀ answer, R state
      ((state.asked caller (.runFunction function)).log (.derived caller function answer)) ∧
      I ((state.asked caller (.runFunction function)).log (.derived caller function answer)) :=
    fun answer => ⟨trans _ _ _ hfirst (hderived _ answer hI).1, (hderived _ answer hI).2⟩
  refine grantCall_cases
    (P := fun result => R state result.2 ∧ I result.2 ∧ ∀ callee, result.1 = .ok callee →
      Hosts callee ∧ callee.kind = .call function)
    (fun reason _ => ?_) (fun reason _ _ => ?_) (fun permits derived => ?_)
  · exact ⟨hfirst, hI, fun callee heq => by cases heq⟩
  · exact ⟨(hboth _).1, (hboth _).2, fun callee heq => by cases heq⟩
  · obtain ⟨hR, hI⟩ := hboth (caller.derivation state.store function)
    obtain ⟨hcalled, hI, hosts⟩ := hentered _ hI permits derived
    refine ⟨trans _ _ _ hR hcalled, hI, fun callee heq => ?_⟩
    cases heq
    exact ⟨hosts, rfl⟩

end Along

end GuardedScript

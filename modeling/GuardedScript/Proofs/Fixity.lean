import GuardedScript.Proofs.Inheritance
import Mathlib.Logic.Relation

/-!
# What has been evaluated is fixed

A program may be lazy all over: arguments, operands and the elements of arrays are references, calls
and chains.  What it stores and what it returns is not.  If the variables and defaults at hand are
fixed, and native bodies turn fixed arguments into fixed results, then every variable is fixed at
every point of a run, and so is every result.  A dispatch that looks once more at an operand that
has been evaluated therefore finds nothing to evaluate (`Request.serve_fixed`).

The points of a run are the states on a `Course` from its start to its end.  A course is made of
single changes, and a value can be bound only together with the question whether it may be, which
stays in the trace.  So the trace tells what was ever stored, also if it was overwritten later on.
-/

set_option autoImplicit false

namespace GuardedScript

/-! ### Fixed values -/

namespace Value

mutual

/-- A value is fixed exactly if it needs no evaluation. -/
theorem evaluationKind_eq_fixed_iff :
    (value : Value) → (value.evaluationKind = .fixed ↔ value.needsEvaluation = false)
  | .int _ | .double _ | .char _ | .string _ | .boolean _ | .null | .undefined => by
    simp [evaluationKind, needsEvaluation]
  | .array dynamic items => by
    have hitems := allFixed_iff items
    cases dynamic with
    | true => simp [evaluationKind, needsEvaluation, stability, Stability.classify,
        Stability.evaluationKind]
    | false =>
      cases hall : allFixed items with
      | true => simp [evaluationKind, needsEvaluation, stability, Stability.classify,
          Stability.evaluationKind, hall]
      | false =>
        have hany : anyNeedsEvaluation items ≠ false := by
          intro hnone
          rw [hitems.mpr hnone] at hall
          cases hall
        simp [evaluationKind, needsEvaluation, stability, Stability.classify,
          Stability.evaluationKind, hall, hany]
  | .reference _ | .property _ _ | .call _ _ | .memberCall _ _ _ | .expression _ _ => by
    simp [evaluationKind, needsEvaluation]
termination_by structural value => value

/-- Elements are all fixed exactly if none of them needs evaluation. -/
theorem allFixed_iff :
    (items : List Value) → (allFixed items = true ↔ anyNeedsEvaluation items = false)
  | [] => by simp [allFixed, anyNeedsEvaluation]
  | item :: items => by
    have hitem := evaluationKind_eq_fixed_iff item
    have hitems := allFixed_iff items
    simp [allFixed, anyNeedsEvaluation, hitem, hitems]
termination_by structural items => items

end

/-- An array of fixed values is fixed. -/
theorem evaluationKind_ofList {items : List Value}
    (h : ∀ item ∈ items, item.evaluationKind = .fixed) :
    (ofList items).evaluationKind = .fixed := by
  have hall : allFixed items = true := by
    induction items with
    | nil => rfl
    | cons item items ih =>
      obtain ⟨hfirst, hrest⟩ := List.forall_mem_cons.mp h
      simp [allFixed, hfirst, ih hrest]
  simp [ofList, evaluationKind, hall, Stability.classify, Stability.evaluationKind]

end Value

/-- Only fixed values are stored, passed and returned. -/
def Terms.fixed : Terms where
  Keeps value := value.evaluationKind = .fixed
  Writes _ := True
  keeps_of_fixed := fun {value} => value.evaluationKind_eq_fixed_iff.mpr
  keeps_ofList := Value.evaluationKind_ofList
  writes_local := trivial

/-- A value on which every dispatch goes straight to the look-up on its type, whatever evaluator is
there for values that are not fixed. -/
structure Value.Immediate (value : Value) : Prop where
  resolve : ∀ (perform : Evaluator) (context : Context),
    resolve perform context value = pure (.success value)
  member : ∀ name, ∃ action, ∀ (perform : Evaluator) (context : Context) arguments,
    invokeMemberFunction perform context value name arguments =
      invokeMember perform context (.askForMember value.type name) action .function value.type name
        (.named selfArgument value :: arguments)
  property : ∀ name, ∃ action, ∀ (perform : Evaluator) (context : Context),
    readProperty perform context value name =
      invokeMember perform context (.askForProperty value.type name) action .property value.type
        name [.named selfArgument value]
  operator : ∀ symbol, ∃ action, ∀ (perform : Evaluator) (context : Context) (right : Value),
    right.evaluationKind = .fixed →
    applyOperator perform context value symbol right =
      invokeMember perform context (.askForOperator value.type symbol) action .operator value.type
        symbol [.named leftOperand value, .named rightOperand right]
  cast : ∀ target : ValueType, ∃ action, ∀ (perform : Evaluator) (context : Context),
    castTo perform context value target =
      invokeMember perform context (.askForCast value.type target) action .cast value.type
        target.name [.named selfArgument value]

/-- A fixed value resolves to itself. -/
theorem resolve_of_fixed {value : Value} (h : value.evaluationKind = .fixed) (perform : Evaluator)
    (context : Context) : resolve perform context value = pure (.success value) := by
  have hneeds := value.evaluationKind_eq_fixed_iff.mp h
  simp [resolve, hneeds]

/-- A fixed value is never evaluated again. -/
theorem Value.immediate_of_fixed {value : Value} (h : value.evaluationKind = .fixed) :
    value.Immediate where
  resolve := resolve_of_fixed h
  member := fun name => ⟨_, fun perform context arguments => by
    rw [invokeMemberFunction, resolve_of_fixed h, pure_bind]⟩
  property := fun name => ⟨_, fun perform context => by
    rw [readProperty, resolve_of_fixed h, pure_bind]⟩
  operator := fun symbol => ⟨_, fun perform context right hright => by
    rw [applyOperator, resolve_of_fixed h, pure_bind]
    show (resolve perform context right >>= _) = _
    rw [resolve_of_fixed hright, pure_bind]⟩
  cast := fun target => ⟨_, fun perform context => by
    rw [castTo, resolve_of_fixed h, pure_bind]⟩

/-! ### The points of a run -/

/-- A single thing that happens to the state.  A variable is bound right after the policy was
asked. -/
inductive Change : State → State → Prop
  | logged (state : State) (event : Event) : Change state (state.log event)
  | extended (state : State) : Change state state.extend
  | bound (state : State) (context : Context) (key : String) (global : Bool) (value : Value)
      (attempt : Option (Outcome Unit)) :
      Change state ((state.asked context (.setVariable key global value attempt)).update context.id
        (fun registry => registry.setVariable key value))
  | unbound (state : State) (id : Nat) (key : String) :
      Change state (state.update id (fun registry => registry.removeVariable key))
  | registered (state : State) (id : Nat) (key : String) (function : Function) :
      Change state (state.update id (fun registry => registry.addFunction key function))

/-- Changes one after the other. -/
abbrev Course : State → State → Prop :=
  Relation.ReflTransGen Change

/-- All variables are fixed. -/
def State.Fixed (state : State) : Prop :=
  ∀ id, (state.store.registry id).locals.All (fun value => value.evaluationKind = .fixed)

/-- The value that is to be stored if the policy permits. -/
def Event.offered? : Event → Option Value
  | checked _ check _ => check.offered?
  | _ => none

/-- The values that were to be stored between two states are fixed. -/
def FixedSince (state final : State) : Prop :=
  ∃ newer, final.trace = newer ++ state.trace ∧
    ∀ event ∈ newer, ∀ value, event.offered? = some value → value.evaluationKind = .fixed

section Points

variable {first second third : State}

/-- What was offered in two parts of a run was offered in one of them. -/
theorem FixedSince.trans (hfirst : FixedSince first second) (hsecond : FixedSince second third) :
    FixedSince first third := by
  obtain ⟨older, holder, hfixed⟩ := hfirst
  obtain ⟨newer, hnewer, hfixed'⟩ := hsecond
  refine ⟨newer ++ older, by rw [hnewer, holder, List.append_assoc], ?_⟩
  intro event hmem
  rcases List.mem_append.mp hmem with hnew | hold
  · exact hfixed' event hnew
  · exact hfixed event hold

/-- Where nothing is new in the trace nothing was offered. -/
theorem fixedSince_of_trace_eq (h : second.trace = first.trace) : FixedSince first second :=
  ⟨[], h, fun _ hmem => absurd hmem List.not_mem_nil⟩

/-- One event that offers only fixed values keeps to them. -/
theorem fixedSince_cons {event : Event} (h : second.trace = event :: first.trace)
    (hevent : ∀ value, event.offered? = some value → value.evaluationKind = .fixed) :
    FixedSince first second := by
  refine ⟨[event], h, ?_⟩
  intro other hmem
  rw [List.mem_singleton.mp hmem]
  exact hevent

/-- A change only adds to the trace. -/
theorem Change.trace_suffix (h : Change first second) : first.trace <:+ second.trace := by
  cases h with
  | logged event => exact List.suffix_cons _ _
  | extended => exact List.suffix_rfl
  | bound context key global value attempt => exact List.suffix_cons _ _
  | unbound id key => exact List.suffix_rfl
  | registered id key function => exact List.suffix_rfl

/-- A course only adds to the trace. -/
theorem Course.trace_suffix (h : Course first second) : first.trace <:+ second.trace := by
  induction h with
  | refl => exact List.suffix_rfl
  | tail _ change ih => exact ih.trans change.trace_suffix

/-- What holds of a whole course holds of its parts. -/
theorem FixedSince.split (h : FixedSince first third) (hfirst : Course first second)
    (hsecond : Course second third) : FixedSince first second ∧ FixedSince second third := by
  obtain ⟨events, hevents, hfixed⟩ := h
  obtain ⟨older, holder⟩ := hfirst.trace_suffix
  obtain ⟨newer, hnewer⟩ := hsecond.trace_suffix
  -- traces only grow, so that of the state in between cuts the events in two
  have hsplit : newer ++ older = events := by
    rw [← holder, ← List.append_assoc] at hnewer
    exact List.append_cancel_right (hnewer.trans hevents)
  subst hsplit
  refine ⟨⟨older, holder.symm, ?_⟩, ⟨newer, hnewer.symm, ?_⟩⟩
  · exact fun event hmem => hfixed event (List.mem_append_right _ hmem)
  · exact fun event hmem => hfixed event (List.mem_append_left _ hmem)

/-- A change that keeps the variables of any registry fixed keeps those of the store. -/
theorem State.Fixed.update {state : State} (h : state.Fixed) (id : Nat)
    {change : Registry → Registry}
    (hchange : ∀ registry : Registry,
      registry.locals.All (fun value => value.evaluationKind = .fixed) →
      (change registry).locals.All (fun value => value.evaluationKind = .fixed)) :
    (state.update id change).Fixed := by
  intro other
  rw [State.store_update]
  rcases state.store.registry_update id other change with hsame | hchanged
  · rw [hsame]
    exact h other
  · rw [hchanged]
    exact hchange _ (h other)

/-- A change keeps the variables fixed if the value that it stores, which is in the trace, is. -/
theorem Change.fixed (h : Change first second) (hsince : FixedSince first second)
    (hfixed : first.Fixed) : second.Fixed := by
  cases h with
  | logged event => exact hfixed
  | extended =>
    intro id
    rw [State.store_extend, Store.registry_extend]
    exact hfixed id
  | bound context key global value attempt =>
    obtain ⟨events, hevents, hoffered⟩ := hsince
    -- the question that came with the value is all that is new in the trace
    have hvalue : value.evaluationKind = .fixed := by
      have hsingle : [_] ++ first.trace = events ++ first.trace := hevents
      have hmem := List.append_cancel_right hsingle ▸ List.mem_singleton_self _
      exact hoffered _ hmem value rfl
    exact State.Fixed.update hfixed context.id (fun _ hlocals => hlocals.insert key hvalue)
  | unbound id key => exact hfixed.update id (fun _ hlocals => hlocals.erase key)
  | registered id key function => exact hfixed.update id (fun _ hlocals => hlocals)

/-- A course on which only fixed values were offered keeps the variables fixed. -/
theorem Course.fixed (h : Course first second) (hsince : FixedSince first second)
    (hfixed : first.Fixed) : second.Fixed := by
  induction h with
  | refl => exact hfixed
  | tail course change ih =>
    obtain ⟨hbefore, hafter⟩ := hsince.split course (.single change)
    exact change.fixed hafter (ih hbefore)

end Points

/-! ### The induction -/

/-- A course on which only fixed values were to be stored. -/
structure Proper (state final : State) : Prop where
  course : Course state final
  since : FixedSince state final

section Induction

/-- Doing nothing offers nothing. -/
theorem Proper.refl (state : State) : Proper state state :=
  ⟨.refl, fixedSince_of_trace_eq rfl⟩

/-- Two parts of a run that offer only fixed values do so together. -/
theorem Proper.trans {first second third : State} (hfirst : Proper first second)
    (hsecond : Proper second third) : Proper first third :=
  ⟨hfirst.course.trans hsecond.course, hfirst.since.trans hsecond.since⟩

/-- An event that offers only fixed values is a step of its own. -/
theorem proper_log (event : Event)
    (h : ∀ value, event.offered? = some value → value.evaluationKind = .fixed) (state : State) :
    Proper state (state.log event) :=
  ⟨.single (.logged state event), fixedSince_cons rfl h⟩

/-- An event that offers nothing is a step of its own. -/
theorem proper_log_quiet (event : Event) (quiet : event.offered? = none) (state : State) :
    Proper state (state.log event) := by
  refine proper_log event (fun value hvalue => ?_) state
  rw [quiet] at hvalue
  cases hvalue

/-- A new registry is a step that offers nothing. -/
theorem proper_extend (state : State) : Proper state state.extend :=
  ⟨.single (.extended state), fixedSince_of_trace_eq rfl⟩

/-- Questions other than those about writes offer nothing. -/
theorem passage_proper : Passage (fun _ => True) Proper where
  refl := Proper.refl
  trans := Proper.trans
  asked := fun state _ _ quiet => proper_log_quiet (.checked _ _ _) quiet state

/-- A write of a fixed value offers only that. -/
theorem set_proper (context : Context) (key : String) (global : Bool) {value : Value}
    (hvalue : value.evaluationKind = .fixed) (state : State) :
    Proper state (context.set key global value state).2 := by
  have hoffered : ∀ other, some value = some other → other.evaluationKind = .fixed := by
    rintro other ⟨⟩
    exact hvalue
  refine Context.set_passage passage_proper ?_ ?_ ?_ state
  · exact fun scope _ attempt state => proper_log
      (.checked _ (.setVariable key global value attempt) _) hoffered state
  · intro scope _ _ attempt state
    exact ⟨.single (.bound state scope key global value attempt), fixedSince_cons rfl hoffered⟩
  · intro scope _ _ state
    exact ⟨.single (.unbound state scope.id key), fixedSince_of_trace_eq rfl⟩

/-- A registration offers no value. -/
theorem register_proper (context : Context) (name : String) (function : Function) (global : Bool)
    (state : State) : Proper state (context.register name function global state).2 := by
  refine Context.register_passage passage_proper (fun _ _ => trivial) ?_ state
  intro scope _ _ key state
  exact ⟨.single (.registered state scope.id key function), fixedSince_of_trace_eq rfl⟩

/-- Storing and returning only fixed values, as a judgement on programs in any contexts. -/
@[reducible]
def fixity : Discipline .fixed where
  Index := Unit
  Holds run P := Along (State.Abides .fixed) Proper (run ()) P
  Hosts _ := True
  Asks _ := True
  asks_around := fun _ _ _ => trivial
  holds_pure := along_pure Proper.refl
  holds_bind := along_bind (R := Proper) (fun _ _ _ => Proper.trans)
  holds_consult := fun _ _ quiet => along_lift (fun state h =>
    ⟨proper_log_quiet (.checked _ _ _) quiet state, h.log _, state.store, rfl⟩)
  holds_note := fun _ =>
    along_lift (fun state h => ⟨proper_log_quiet _ rfl state, h.log _, trivial⟩)
  holds_openScope := fun _ _ => along_lift (fun state h =>
    ⟨(proper_extend state).trans (proper_log_quiet _ rfl _), h.extend.log _, trivial⟩)
  holds_require := fun key _ => along_lift (fun state h =>
    ⟨Context.require_passage passage_proper key _ (fun _ _ => trivial) state,
      Context.require_abides h key, Context.answers_require h key⟩)
  holds_set := by
    intro context key global value _ _ keeps
    exact along_lift (fun state h =>
      ⟨set_proper context key global keeps state, Context.set_abides h key global keeps, trivial⟩)
  holds_register := by
    intro context name function global _ _ abides
    exact along_lift (fun state h =>
      ⟨register_proper context name function global state,
        Context.register_abides h name abides global, trivial⟩)

/-- Calls keep to fixed values as well. -/
theorem fixity_descends : fixity.Descends where
  fails := along_failure Proper.refl
  overloads := by
    intro context key _ _ _ scope
    refine along_lift (fun state h => ?_)
    rw [Context.overloads_apply]
    exact ⟨.refl state, h, fun function hmem => (h scope.id).overloads hmem⟩
  admits := fun _ _ _ => along_grantCall (R := Proper) (fun _ _ _ => Proper.trans)
    (fun state h => ⟨proper_log_quiet _ rfl state, h.log _⟩)
    (fun state _ h => ⟨proper_log_quiet _ rfl state, h.log _⟩)
    (fun state h _ _ => ⟨(proper_extend state).trans (proper_log_quiet _ rfl _), h.extend.log _,
      trivial⟩)
  begins := fun _ _ =>
    along_lift (fun state h => ⟨proper_log_quiet _ rfl state, h.log _, trivial⟩)

end Induction

/-- In a store of fixed variables and of functions that keep to fixed values, whatever a request
asks for and however lazy it is: all variables are fixed at every point on the way from the first
state to the last one, and what comes back is fixed, so that no dispatch evaluates it again.  The
context and its policies play no part. -/
theorem Request.serve_fixed {request : Request} (hrequest : request.Abides .fixed) {state : State}
    (hstate : state.Abides .fixed) (fuel : Nat) (context : Context) :
    let result := request.serve (perform fuel) context state
    Course state result.2 ∧
      (∀ point, Course state point → Course point result.2 → point.Fixed) ∧
      ∀ outcome value, result.1 = some outcome → outcome.settle = .ok value →
        value.evaluationKind = .fixed ∧ value.Immediate := by
  intro result
  have hserve : fixity.Holds (fun _ => request.serve (perform fuel) context)
      Terms.fixed.Answers := fixity_descends.holds_serve fuel trivial hrequest
  obtain ⟨hproper, -, hanswers⟩ := hserve state hstate
  refine ⟨hproper.course, ?_, ?_⟩
  · intro point hbefore hafter
    obtain ⟨hsince, -⟩ := hproper.since.split hbefore hafter
    exact hbefore.fixed hsince (fun id => (hstate id).locals)
  · intro outcome value houtcome hsettled
    have hvalue : value.evaluationKind = .fixed := (hanswers outcome houtcome).settle hsettled
    exact ⟨hvalue, Value.immediate_of_fixed hvalue⟩

/-- A variadic function with a default, which stores an array that is evaluated each time. -/
def gather : Function :=
  ⟨0, "f", [.mandatory "x" (.lateBound "Object"), ⟨"d", .declared .int, .substitute (.int 5), rfl⟩],
    true, .script ⟨defaultMarker,
      [.assign "x" false (.array true [.reference "x", .reference "d"]),
        .evaluate (.array true [.reference "x", .reference "rest"])]⟩⟩

def gatherState : State where
  store := ⟨#[⟨(∅ : Table _).insert "v" (.int 7), (∅ : Table _).insert "f" [gather]⟩]⟩

/-- A call with lazy arguments, one of which is left over. -/
def gatherCall : Value :=
  .call "f" [.positional (.array true [.reference "v"]), .positional (.string "s"),
    .positional (.ofList [.reference "v"])]

/-- The function keeps to fixed values. -/
theorem gather_abides : gather.Abides .fixed := by
  refine .intro ?_ (.script ?_)
  · intro parameter hmem default hmissing
    simp only [gather, List.mem_cons, List.not_mem_nil, or_false] at hmem
    rcases hmem with rfl | rfl
    · cases hmissing
    · cases hmissing
      rfl
  · intro action hmem
    simp only [List.mem_cons, List.not_mem_nil, or_false] at hmem
    rcases hmem with rfl | rfl
    · exact .assign "x" _ trivial
    · exact .evaluate _

/-- The call stores the arguments, the default and the rest, overwrites one of them, and returns
them all as they are. -/
theorem serve_fixed_gather :
    let root := Context.root ⟨0, .global, .permissive, {}⟩
    let request := Request.resolve gatherCall
    let result := request.serve (perform 20) root gatherState
    request.Abides .fixed ∧ gatherState.Abides .fixed ∧
      gatherCall.evaluationKind = .runtime ∧
      (result.1.bind Outcome.success?).map Value.text = some "[[[7], 5], [\"s\", [7]]]" ∧
      Course gatherState result.2 ∧
      (∀ point, Course gatherState point → Course point result.2 → point.Fixed) ∧
      ∀ outcome value, result.1 = some outcome → outcome.settle = .ok value →
        value.evaluationKind = .fixed ∧ value.Immediate := by
  intro root request result
  have hstate : gatherState.Abides .fixed := by
    intro id
    cases id with
    | zero =>
      refine ⟨Table.all_empty.insert "v" rfl, Table.all_empty.insert "f" (fun function hmem => ?_)⟩
      rw [List.mem_singleton.mp hmem]
      exact gather_abides
    | succ id => exact Registry.abides_empty
  have hrequest : request.Abides .fixed := trivial
  exact ⟨hrequest, hstate, rfl, by decide +kernel, Request.serve_fixed hrequest hstate 20 root⟩

end GuardedScript

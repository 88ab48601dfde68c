import GuardedScript.Proofs.OperatorTable
import GuardedScript.Proofs.Resolution
import GuardedScript.Proofs.Sparing

/-!
# The order of registration

A call by name tries the functions under the key in the order of their registration.  If in each
context at most one of them takes the arguments, and all of them may be tried, then the order does
not matter: the call comes to the same, runs the same bodies and leaves the same behind it, as long
as the bodies keep away from the key and no policy looks at the order (`invoke_of_reordered`).

The two searches do not go in step, since in one of them the function that applies may come before
others and in the other one behind them.  What is not called leaves nothing but the question whether
it may be tried, so one search can be let run ahead until both are at the function that applies.
From there on they are in states that differ under the key only, and the body keeps pace.
-/

set_option autoImplicit false

namespace GuardedScript

/-- Whether a function takes arguments. -/
def Function.applies (arguments : List (Argument Value)) (function : Function) : Bool :=
  (function.bind? arguments).isSome

/-- In a context all functions under a key may be tried, and at most one of them takes the
arguments. -/
structure Context.Selects (key : String) (arguments : List (Argument Value)) (state : State)
    (context : Context) : Prop where
  tried : ∀ function ∈ (state.store.registry context.id).overloads key,
    ∀ store, context.Permits store (.tryFunction key function)
  atMostOne : (((state.store.registry context.id).overloads key).filter
    (Function.applies arguments)).length ≤ 1

/-- The body that an event starts, with the context that it runs in. -/
def Event.body? : Event → Option (Context × Function)
  | .began context function => some (context, function)
  | _ => none

/-- Two runs have gone through the same bodies, in the same order. -/
def SameBodies (left right left' right' : State) : Prop :=
  ∃ events events', left'.trace = events ++ left.trace ∧ right'.trace = events' ++ right.trace ∧
    events.filterMap Event.body? = events'.filterMap Event.body?

/-! ### Registration in any order -/

/-- The registry with functions registered under a key, one after the other. -/
def Registry.addFunctions (registry : Registry) (key : String) (functions : List Function) :
    Registry :=
  functions.foldl (fun registry function => registry.addFunction key function) registry

section AddFunctions

variable {key : String} {functions others : List Function}

/-- Functions that are added stand behind those under the key, in their order. -/
theorem Registry.overloads_addFunctions (registry : Registry) :
    (registry.addFunctions key functions).overloads key = registry.overloads key ++ functions := by
  induction functions generalizing registry with
  | nil => exact (List.append_nil _).symm
  | cons function functions ih =>
    rw [addFunctions, List.foldl_cons, ← addFunctions, ih, overloads_addFunction, if_pos rfl,
      List.append_assoc, List.singleton_append]

/-- To add functions under a key changes nothing under other keys. -/
theorem Registry.alike_addFunctions (registry : Registry) (id : Nat) (key : String)
    (functions : List Function) :
    registry.Alike (.ofKey key) id (registry.addFunctions key functions) := by
  induction functions generalizing registry with
  | nil => exact ⟨fun _ _ => rfl, fun _ _ => rfl⟩
  | cons function functions ih =>
    have hadded : registry.Alike (.ofKey key) id (registry.addFunction key function) :=
      registry.alike_addFunction rfl function
    have hrest := ih (registry.addFunction key function)
    refine ⟨fun other visible => ?_, fun other visible => ?_⟩
    · exact (hadded.locals other visible).trans (hrest.locals other visible)
    · exact (hadded.functions other visible).trans (hrest.functions other visible)

/-- Registering functions in one order or in another leads to states that differ in this order. -/
theorem State.reordered_of_perm (state : State) (id : Nat) (perm : functions.Perm others) :
    (state.update id (fun registry => registry.addFunctions key functions)).Reordered key
      (state.update id (fun registry => registry.addFunctions key others)) := by
  refine ⟨⟨?_, rfl, fun place => ?_⟩, fun place => ?_⟩
  · simp only [State.store_update, Store.size_update]
  · have hadded := fun functions : List Function =>
      (state.store.registry place).alike_addFunctions place key functions
    simp only [State.store_update, Store.registry_update_eq]
    split
    · refine ⟨fun other visible => ?_, fun other visible => ?_⟩
      · exact ((hadded functions).locals other visible).symm.trans
          ((hadded others).locals other visible)
      · exact ((hadded functions).functions other visible).symm.trans
          ((hadded others).functions other visible)
    · exact ⟨fun _ _ => rfl, fun _ _ => rfl⟩
  · simp only [State.store_update, Store.registry_update_eq]
    split
    · rw [Registry.overloads_addFunctions, Registry.overloads_addFunctions]
      exact perm.append_left _
    · exact .refl _

end AddFunctions

/-! ### Going along -/

/-- Two runs have gone on through the same bodies to states that differ in the order of the
functions under a key only, and both have left what is under the key as it is. -/
structure Accompanies (key : String) (left right left' right' : State) : Prop where
  reordered : left'.Reordered key right'
  keptLeft : left.Kept key left'
  keptRight : right.Kept key right'
  bodies : SameBodies left right left' right'

/-- The first of two runs touches a key, or both come to the same and have gone along. -/
def Together (key : String) (depth : Nat) (left right : State) {α : Type}
    (ended ended' : Option α × State) : Prop :=
  Touched key depth left ended.2 ∨
    (ended.1 = ended'.1 ∧ Accompanies key left right ended.2 ended'.2)

section Accompanies

variable {key : String} {depth : Nat} {left right left' right' left'' right'' : State} {α β : Type}

/-- Two parts of two runs that go through the same bodies do so together. -/
theorem SameBodies.trans (hfirst : SameBodies left right left' right')
    (hsecond : SameBodies left' right' left'' right'') :
    SameBodies left right left'' right'' := by
  obtain ⟨older, older', hleft, hright, hsame⟩ := hfirst
  obtain ⟨newer, newer', hleft', hright', hsame'⟩ := hsecond
  refine ⟨newer ++ older, newer' ++ older', ?_, ?_, ?_⟩
  · rw [hleft', hleft, List.append_assoc]
  · rw [hright', hright, List.append_assoc]
  · rw [List.filterMap_append, List.filterMap_append, hsame, hsame']

namespace Accompanies

/-- Two runs that have done nothing have gone along. -/
theorem refl (reordered : left.Reordered key right) : Accompanies key left right left right :=
  ⟨reordered, .refl left, .refl right, [], [], rfl, rfl, rfl⟩

/-- Two runs that have gone along and still do have gone along in the end. -/
theorem trans (hfirst : Accompanies key left right left' right')
    (hsecond : Accompanies key left' right' left'' right'') :
    Accompanies key left right left'' right'' :=
  ⟨hsecond.reordered, hfirst.keptLeft.trans hsecond.keptLeft,
    hfirst.keptRight.trans hsecond.keptRight,
    hfirst.bodies.trans hsecond.bodies⟩

/-- Runs that go along continue their traces. -/
theorem suffix (h : Accompanies key left right left' right') : left.trace <:+ left'.trace := by
  obtain ⟨events, -, hleft, -, -⟩ := h.bodies
  exact ⟨events, hleft.symm⟩

/-- The first run may ask by itself. -/
theorem asked_left (h : Accompanies key left right left' right') (context : Context)
    (check : Check) : Accompanies key left right (left'.asked context check) right' :=
  h.trans ⟨h.reordered.log_left _, .refl _, .refl _, [_], [], rfl, rfl, rfl⟩

/-- The second run may ask by itself. -/
theorem asked_right (h : Accompanies key left right left' right') (context : Context)
    (check : Check) : Accompanies key left right left' (right'.asked context check) :=
  h.trans ⟨h.reordered.log_right _, .refl _, .refl _, [], [_], rfl, rfl, rfl⟩

/-- Both runs may ask. -/
theorem asked (h : Accompanies key left right left' right') (context : Context) (check : Check) :
    Accompanies key left right (left'.asked context check) (right'.asked context check) :=
  (h.asked_left context check).asked_right context check

/-- Both runs may note a derivation. -/
theorem derived (h : Accompanies key left right left' right') (context : Context)
    (function : Function) (answer : Outcome Policy) :
    Accompanies key left right (left'.log (.derived context function answer))
      (right'.log (.derived context function answer)) :=
  h.trans ⟨(h.reordered.log_left _).log_right _, .refl _, .refl _, [_], [_], rfl, rfl, rfl⟩

/-- A call starts in both runs in the same way, whatever look-up has led to it. -/
theorem called (reordered : left.Reordered key right) (lookup lookup' : Option Lookup)
    (caller : Context) (function : Function) :
    Accompanies key left right (left.called lookup caller function)
      (right.called lookup' caller function) := by
  refine ⟨?_, left.kept_extend, right.kept_extend, [_, _, _], [_, _, _], rfl, rfl, rfl⟩
  have hextended := (reordered_likeness key).extend reordered
  have halike := hextended.alike
  exact ⟨⟨halike.size, halike.nextFunction, halike.registries⟩, hextended.perm⟩

/-- Where two runs have gone along, the functions under the key still select. -/
theorem selects (h : Accompanies key left right left' right') {arguments : List (Argument Value)}
    {context : Context} (selects : context.Selects key arguments left) :
    context.Selects key arguments left' := by
  have hsame := h.keptLeft.overloads context.id
  exact ⟨hsame ▸ selects.tried, hsame ▸ selects.atMostOne⟩

end Accompanies

namespace Together

/-- Two runs that have gone along and end now, with the same result, are together. -/
theorem same {ended ended' : Option α} (hsame : ended = ended')
    (h : Accompanies key left right left' right') :
    Together key depth left right (ended, left') (ended', right') :=
  .inr ⟨hsame, h⟩

/-- What is together after two runs have gone along is together from the start. -/
theorem after {ended ended' : Option α × State}
    (h : Together key depth left' right' ended ended')
    (before : Accompanies key left right left' right') :
    Together key depth left right ended ended' := by
  rcases h with touched | ⟨hsame, haccompanies⟩
  · exact .inl (touched.of_suffix before.suffix)
  · exact .inr ⟨hsame, before.trans haccompanies⟩

/-- Two sequences are together if their parts are.  If the first part touches the key then so does
the whole, as the second only continues the trace. -/
theorem bind {run run' : Run α} {next next' : α → Run β}
    (h : Together key depth left right (run left) (run' right))
    (continues : ∀ a state, state.trace <:+ (next a state).2.trace)
    (hnext : ∀ a left' right', Accompanies key left right left' right' →
      Together key depth left' right' (next a left') (next' a right')) :
    Together key depth left right ((run >>= next) left) ((run' >>= next') right) := by
  rw [Run.bind_apply, Run.bind_apply]
  cases hleft : run left with
  | mk found left' =>
    cases hright : run' right with
    | mk found' right' =>
      rw [hleft, hright] at h
      cases found with
      | none =>
        rcases h with touched | ⟨hsame, haccompanies⟩
        · exact .inl touched
        · obtain rfl : none = found' := hsame
          exact .inr ⟨rfl, haccompanies⟩
      | some a =>
        rcases h with touched | ⟨hsame, haccompanies⟩
        · exact .inl (touched.of_prefix (continues a left'))
        · obtain rfl : some a = found' := hsame
          exact (hnext a left' right' haccompanies).after haccompanies

/-- Bodies go along, or touch the key. -/
theorem of_sparing {run : Run α} {P : α → Prop} (h : (sparing key depth).Holds (fun _ => run) P)
    (reordered : left.Reordered key right) :
    Together key depth left right (run left) (run right) := by
  obtain ⟨hcontinues, hpace⟩ := h
  rcases hpace left right reordered with touched | ⟨hsame, habreast⟩
  · exact .inl touched
  rcases (hcontinues left trivial).1.kept with touched | keptLeft
  · exact .inl touched
  rcases (hcontinues right trivial).1.kept with touched | keptRight
  · exact .inl (touched.of_abreast habreast)
  obtain ⟨events, hleft, hright⟩ := habreast.events
  exact .inr ⟨hsame, habreast.related, keptLeft, keptRight, events, events, hleft, hright, rfl⟩

end Together

end Accompanies

/-! ### Searches only continue the trace -/

section Continues

/-- What is left continues the trace. -/
theorem Leaves.suffix {Inv : Context → Prop} {state final : State} (h : Leaves Inv state final) :
    state.trace <:+ final.trace := by
  obtain ⟨events, hevents, -⟩ := h
  exact ⟨events, hevents.symm⟩

variable (fuel : Nat) (self scope : Context) (key : String) (arguments : List (Argument Value))

/-- A call leaves what all calls leave. -/
theorem holds_invokeObject_of_any (lookup : Option Lookup) (function : Function)
    (bindings : Bindings) : function.Abides .any → Terms.any.Binds bindings →
    (inheritance inherited_any).Holds
      (fun _ => invokeObject (perform fuel) lookup self function bindings) Terms.any.Answers :=
  fun _ _ => holds_invokeObject_of_inherited inherited_any fuel trivial lookup function bindings

/-- Trying functions continues the trace. -/
theorem tryOverloads_suffix (functions : List Function) (position : Nat) (refusals : Refusals)
    (state : State) :
    state.trace <:+ (tryOverloads (perform fuel) self scope key arguments functions position
      refusals state).2.trace := by
  have htry : (inheritance inherited_any).Holds
      (fun _ => tryOverloads (perform fuel) self scope key arguments functions position refusals)
      (fun result => ∀ value, result = .found value → Terms.any.Keeps value) :=
    Discipline.holds_tryOverloads (holds_invokeObject_of_any fuel self) (fun _ _ => trivial) trivial
      (fun function _ => function.abides_any) position refusals
  exact (htry state trivial).1.suffix

/-- The part of a search beyond a context continues the trace. -/
theorem searchBeyond_suffix (refusals : Refusals) (state : State) :
    state.trace <:+
      (searchBeyond (perform fuel) self key arguments refusals scope state).2.trace := by
  have hoverloads := fun scope : Context => holds_overloads_of_inherited inherited_any scope key
  have hbeyond : (inheritance inherited_any).Holds
      (fun _ => searchBeyond (perform fuel) self key arguments refusals scope)
      Terms.any.Answers := by
    have houtcome : ∀ refusals : Refusals,
        (inheritance inherited_any).Holds (fun _ => pure refusals.outcome) Terms.any.Answers :=
      fun refusals => (inheritance inherited_any).holds_pure (Discipline.answers_refusals refusals)
    cases scope with
    | root frame => exact houtcome refusals
    | nested frame parent =>
      refine Discipline.holds_guarded trivial rfl (fun _ => houtcome _) (fun _ _ => ?_)
      refine Discipline.holds_guarded trivial rfl (fun _ => houtcome _) (fun _ asked => ?_)
      exact Discipline.holds_search (holds_invokeObject_of_any fuel self) (fun _ _ => trivial)
        (fun scope _ _ => hoverloads scope) (fun _ _ => trivial) asked refusals
  exact (hbeyond state trivial).1.suffix

end Continues

/-! ### Calls -/

section Calls

variable {fuel depth : Nat} {self scope : Context} {key : String}
  {arguments : List (Argument Value)} {left right : State}

/-- A call goes along, however the function was found. -/
theorem together_invokeObject (hdepth : depth ≤ self.depth)
    (ignores : self.Ignores (State.Reordered key)) (lookup lookup' : Option Lookup)
    (function : Function) (bindings : Bindings) (reordered : left.Reordered key right) :
    Together key depth left right
      (invokeObject (perform fuel) lookup self function bindings left)
      (invokeObject (perform fuel) lookup' self function bindings right) := by
  have hasked := (Accompanies.refl reordered).asked self (.runFunction function)
  have hderivation := ignores.derivation_eq reordered function
  rcases self.refused_or_underived_or_granted left.store function with
    ⟨reason, refused⟩ | ⟨permits, reason, underived⟩ | ⟨permits, derived⟩
  · have refused' := (ignores.decision_eq reordered (.runFunction function)).symm.trans refused
    rw [invokeObject_of_refused _ _ _ _ refused, invokeObject_of_refused _ _ _ _ refused']
    exact .same rfl hasked
  · have permits' := ignores.permits reordered permits
    rw [invokeObject_of_underived _ _ _ _ permits underived,
      invokeObject_of_underived _ _ _ _ permits' (hderivation.symm.trans underived)]
    exact .same rfl (hasked.derived self function (.failure reason))
  · have permits' := ignores.permits reordered permits
    have derived' : ∀ reason, self.derivation right.store function ≠ .failure reason :=
      fun reason h => derived reason (hderivation.trans h)
    rw [invokeObject_of_permits _ _ _ _ permits derived,
      invokeObject_of_permits _ _ _ _ permits' derived',
      ← ignores.calleeAt_eq reordered reordered.alike.size]
    have hcalled := Accompanies.called reordered lookup lookup' self function
    have hcallee : Beyond key depth (self.calleeAt left.store function) :=
      ⟨Nat.lt_succ_of_le hdepth, ignores.calleeAt left.store function⟩
    have hbinds : Terms.any.Binds bindings := ⟨fun _ _ => trivial, fun _ _ => trivial⟩
    have hbody := bodiesSpare key depth fuel hcallee (self.kind_calleeAt _ function)
      function.abides_any hbinds
    exact (Together.of_sparing hbody hcalled.reordered).after hcalled

/-- A function that does not take the arguments is passed over. -/
theorem tryOverloads_of_unfit {perform : Evaluator} {function : Function}
    (permits : ∀ store, scope.Permits store (.tryFunction key function))
    (unfit : function.applies arguments = false) (functions : List Function) (position : Nat)
    (refusals : Refusals) (state : State) :
    tryOverloads perform self scope key arguments (function :: functions) position refusals state =
      tryOverloads perform self scope key arguments functions (position + 1) refusals
        (state.asked scope (.tryFunction key function)) := by
  have hunbound : function.bind? arguments = none :=
    Option.not_isSome_iff_eq_none.mp (Bool.eq_false_iff.mp unfit)
  rw [tryOverloads, Context.run_guarded_of_permits _ _ _ (permits _), hunbound]

/-- A function that applies is called in both searches, which go on from where it leads. -/
theorem Together.calling {function : Function} {functions others : List Function}
    {position position' : Nat} {refusals : Refusals} (hdepth : depth ≤ self.depth)
    (ignores : self.Ignores (State.Reordered key))
    (permits : ∀ store, scope.Permits store (.tryFunction key function))
    (applies : function.applies arguments = true) (reordered : left.Reordered key right)
    (h : ∀ refusals left' right', left'.Reordered key right' →
      Together key depth left' right'
        (tryOverloads (perform fuel) self scope key arguments functions (position + 1) refusals
          left')
        (tryOverloads (perform fuel) self scope key arguments others (position' + 1) refusals
          right')) :
    Together key depth left right
      (tryOverloads (perform fuel) self scope key arguments (function :: functions) position
        refusals left)
      (tryOverloads (perform fuel) self scope key arguments (function :: others) position'
        refusals right) := by
  obtain ⟨bindings, hbound⟩ := Option.isSome_iff_exists.mp applies
  have hasked := (Accompanies.refl reordered).asked scope (.tryFunction key function)
  have hcall : Together key depth (left.asked scope (.tryFunction key function))
      (right.asked scope (.tryFunction key function))
      (invokeObject (perform fuel) (some ⟨key, scope, position⟩) self function bindings
        (left.asked scope (.tryFunction key function)))
      (invokeObject (perform fuel) (some ⟨key, scope, position'⟩) self function bindings
        (right.asked scope (.tryFunction key function))) :=
    together_invokeObject hdepth ignores _ _ function bindings hasked.reordered
  simp only [tryOverloads]
  rw [Context.run_guarded_of_permits _ _ _ (permits _),
    Context.run_guarded_of_permits _ _ _ (permits _), hbound]
  refine (hcall.bind ?_ ?_).after hasked
  · intro outcome state
    cases outcome with
    | success value => exact List.suffix_rfl
    | empty => exact tryOverloads_suffix fuel self scope key arguments functions _ _ state
    | failure reason => exact tryOverloads_suffix fuel self scope key arguments functions _ _ state
  · intro outcome left' right' haccompanies
    cases outcome with
    | success value => exact .same rfl (.refl haccompanies.reordered)
    | empty => exact h refusals left' right' haccompanies.reordered
    | failure reason => exact h _ left' right' haccompanies.reordered

/-- If of two lists of functions the same ones apply, it does not matter what stands between
them. -/
theorem together_tryOverloads (hdepth : depth ≤ self.depth)
    (ignores : self.Ignores (State.Reordered key)) {functions others : List Function}
    (same : functions.filter (Function.applies arguments) =
      others.filter (Function.applies arguments))
    (tried : ∀ function ∈ functions, ∀ store, scope.Permits store (.tryFunction key function))
    (tried' : ∀ function ∈ others, ∀ store, scope.Permits store (.tryFunction key function))
    (position position' : Nat) (refusals : Refusals) (reordered : left.Reordered key right) :
    Together key depth left right
      (tryOverloads (perform fuel) self scope key arguments functions position refusals left)
      (tryOverloads (perform fuel) self scope key arguments others position' refusals right) := by
  -- the search that is not yet at a function that applies runs ahead
  induction functions generalizing others position position' refusals left right with
  | nil =>
    induction others generalizing position' right with
    | nil => exact .same rfl (.refl reordered)
    | cons other others ihOthers =>
      obtain ⟨permits, triedOthers⟩ := List.forall_mem_cons.mp tried'
      obtain ⟨hother, hothers⟩ := List.forall_mem_cons.mp (List.filter_eq_nil_iff.mp same.symm)
      have hasked := (Accompanies.refl reordered).asked_right scope (.tryFunction key other)
      have hnone := (List.filter_eq_nil_iff.mpr hothers).symm
      rw [tryOverloads_of_unfit permits (Bool.eq_false_iff.mpr hother)]
      exact (ihOthers hnone triedOthers _ hasked.reordered).after hasked
  | cons function functions ih =>
    obtain ⟨permits, triedRest⟩ := List.forall_mem_cons.mp tried
    by_cases applies : function.applies arguments = true
    · rw [List.filter_cons_of_pos applies] at same
      induction others generalizing position' right with
      | nil => cases same
      | cons other others ihOthers =>
        obtain ⟨permits', triedOthers⟩ := List.forall_mem_cons.mp tried'
        by_cases applies' : other.applies arguments = true
        · rw [List.filter_cons_of_pos applies'] at same
          obtain ⟨rfl, hrest⟩ := List.cons.inj same
          exact .calling hdepth ignores permits applies reordered
            (fun refusals _ _ reordered' => ih hrest triedRest triedOthers _ _ refusals reordered')
        · rw [List.filter_cons_of_neg applies'] at same
          have hasked := (Accompanies.refl reordered).asked_right scope (.tryFunction key other)
          rw [tryOverloads_of_unfit permits' (Bool.eq_false_iff.mpr applies')]
          exact (ihOthers same triedOthers _ hasked.reordered).after hasked
    · rw [List.filter_cons_of_neg applies] at same
      have hasked := (Accompanies.refl reordered).asked_left scope (.tryFunction key function)
      rw [tryOverloads_of_unfit permits (Bool.eq_false_iff.mpr applies)]
      exact (ih same triedRest tried' _ _ refusals hasked.reordered).after hasked

end Calls

/-! ### Searches -/

section Searches

variable {fuel depth : Nat} {self scope : Context} {key : String}
  {arguments : List (Argument Value)} {left right : State}

/-- Of functions of which at most one applies, the same ones apply in any order. -/
theorem filter_eq_of_perm {functions others : List Function} (perm : functions.Perm others)
    {applies : Function → Bool} (atMostOne : (functions.filter applies).length ≤ 1) :
    functions.filter applies = others.filter applies := by
  have hperm := perm.filter applies
  match hfilter : functions.filter applies with
  | [] =>
    rw [hfilter] at hperm
    exact hperm.nil_eq
  | [function] =>
    rw [hfilter] at hperm
    exact (List.perm_singleton.mp hperm.symm).symm
  | _ :: _ :: _ =>
    rw [hfilter] at atMostOne
    simp at atMostOne

/-- A chain that is open to its end goes on from the parent. -/
theorem OpenPathIn.of_nested {frame : Frame} {parent : Context} {state : State}
    (path : OpenPathIn key state (.nested frame parent) (Context.nested frame parent).ancestry) :
    (Context.nested frame parent).Permits state.store (.askParentForFunction key) ∧
      parent.Permits state.store (.askForFunction key) ∧
      OpenPathIn key state parent parent.ancestry := by
  rcases path.nested_cases with hshort | ⟨rest, hrest, hpath, hleft, hasked⟩
  · have hlength := hshort.length_le
    simp [Context.depth] at hlength
  · obtain rfl : parent.ancestry = rest := (List.cons.inj hrest).2
    exact ⟨hleft, hasked, hpath⟩

/-- Two searches are together if they are beyond their first context. -/
theorem together_search_of_beyond (hdepth : depth ≤ self.depth)
    (ignores : self.Ignores (State.Reordered key)) (refusals : Refusals)
    (selects : scope.Selects key arguments left) (reordered : left.Reordered key right)
    (hbeyond : ∀ refusals left' right', Accompanies key left right left' right' →
      Together key depth left' right'
        (searchBeyond (perform fuel) self key arguments refusals scope left')
        (searchBeyond (perform fuel) self key arguments refusals scope right')) :
    Together key depth left right
      (search (perform fuel) self key arguments refusals scope left)
      (search (perform fuel) self key arguments refusals scope right) := by
  have hperm := reordered.perm scope.id
  have hsame := filter_eq_of_perm hperm selects.atMostOne
  have htried' : ∀ function ∈ (right.store.registry scope.id).overloads key,
      ∀ store, scope.Permits store (.tryFunction key function) :=
    fun function hmem => selects.tried function (hperm.mem_iff.mpr hmem)
  rw [search_eq, Run.bind_apply_of_some (Run.lift_apply _ _),
    Run.bind_apply_of_some (Run.lift_apply _ _), Context.overloads_apply, Context.overloads_apply]
  refine (together_tryOverloads hdepth ignores hsame selects.tried htried' 0 0 refusals
    reordered).bind ?_ ?_
  · intro result state
    cases result with
    | found value => exact List.suffix_rfl
    | pending refusals => exact searchBeyond_suffix fuel self scope key arguments refusals state
  · intro result left' right' haccompanies
    cases result with
    | found value => exact .same rfl (.refl haccompanies.reordered)
    | pending refusals => exact hbeyond refusals left' right' haccompanies

/-- Two searches along an open chain are together. -/
theorem together_search (hdepth : depth ≤ self.depth)
    (ignores : self.Ignores (State.Reordered key)) (refusals : Refusals)
    (path : ∀ state, OpenPathIn key state scope scope.ancestry)
    (selects : ∀ other ∈ scope.ancestry, other.Selects key arguments left)
    (reordered : left.Reordered key right) :
    Together key depth left right
      (search (perform fuel) self key arguments refusals scope left)
      (search (perform fuel) self key arguments refusals scope right) := by
  induction scope generalizing refusals left right with
  | root frame =>
    refine together_search_of_beyond hdepth ignores refusals
      (selects _ (Context.mem_ancestry_self _)) reordered
      (fun refusals left' right' haccompanies => ?_)
    exact .same rfl (.refl haccompanies.reordered)
  | nested frame parent ih =>
    have permits : ∀ store, (Context.nested frame parent).Permits store
        (.askParentForFunction key) := fun store => (path ⟨store, 0, []⟩).of_nested.1
    have asked : ∀ store, parent.Permits store (.askForFunction key) :=
      fun store => (path ⟨store, 0, []⟩).of_nested.2.1
    refine together_search_of_beyond hdepth ignores refusals
      (selects _ (Context.mem_ancestry_self _)) reordered
      (fun refusals left' right' haccompanies => ?_)
    have hasked := ((Accompanies.refl haccompanies.reordered).asked (.nested frame parent)
      (.askParentForFunction key)).asked parent (.askForFunction key)
    -- what was said of the states at first still holds, as nothing has changed under the key
    have hreached := haccompanies.trans hasked
    simp only [searchBeyond]
    rw [Context.run_guarded_of_permits _ _ _ (permits _),
      Context.run_guarded_of_permits _ _ _ (asked _),
      Context.run_guarded_of_permits _ _ _ (permits _),
      Context.run_guarded_of_permits _ _ _ (asked _)]
    refine (ih refusals (fun state => (path state).of_nested.2.2) (fun other hmem => ?_)
      hreached.reordered).after hasked
    exact hreached.selects (selects other (Context.mem_ancestry_nested hmem))

end Searches

/-- The order in which functions are registered under a key does not matter for a call, by any
spelling of the key, if the look-up is refused nowhere along the contexts, in each of them at most
one function takes the arguments, and none of their policies looks at this order.  The result is the
same, the same bodies run, and afterwards all variables and functions are the same but for this
order, which is as it was.  The bodies must not register or look for functions under the key
themselves. -/
theorem invoke_of_reordered (fuel : Nat) {context : Context} {key name name' : String}
    {arguments : List (Argument Value)} {left right : State} (spelled : Text.key name = key)
    (spelled' : Text.key name' = key)
    (path : ∀ state, OpenPathIn key state context context.ancestry)
    (selects : ∀ scope ∈ context.ancestry, scope.Selects key arguments left)
    (ignores : context.Ignores (State.Reordered key))
    (reordered : left.Reordered key right)
    (spares : Spares key context.depth left
      (invoke (perform fuel) context name arguments left).2) :
    let ended := invoke (perform fuel) context name arguments left
    let ended' := invoke (perform fuel) context name' arguments right
    ended.1 = ended'.1 ∧ SameBodies left right ended.2 ended'.2 ∧
      ended.2.Reordered key ended'.2 ∧ left.Kept key ended.2 ∧ right.Kept key ended'.2 := by
  intro ended ended'
  have asked : ∀ state : State, context.Permits state.store (.askForFunction key) :=
    fun state => (path state).permits_start
      (List.ne_nil_of_mem (Context.mem_ancestry_self context))
  have hasked := (Accompanies.refl reordered).asked context (.askForFunction key)
  have htogether : Together key context.depth left right ended ended' := by
    simp only [ended, ended', invoke, invokeFrom, spelled, spelled']
    rw [Context.run_guarded_of_permits _ _ _ (asked left),
      Context.run_guarded_of_permits _ _ _ (asked right)]
    refine (together_search (Nat.le_refl _) ignores {} path (fun scope hmem => ?_)
      hasked.reordered).after hasked
    exact hasked.selects (selects scope hmem)
  rcases htogether with touched | ⟨hsame, haccompanies⟩
  · exact absurd touched spares.not_touched
  · exact ⟨hsame, haccompanies.bodies, haccompanies.reordered, haccompanies.keptLeft,
      haccompanies.keptRight⟩

/-- Tells a number, and leaves a global note of it. -/
def describeNumber : Function :=
  ⟨0, "describe", [.mandatory "value" (.declared .number)], false, .native (fun _ =>
    .set "described" true (.boolean true) (fun _ => .done (.success (.string "number"))))⟩

/-- Tells a text. -/
def describeText : Function :=
  ⟨1, "describe", [.mandatory "value" (.declared .string)], false, .native (fun _ =>
    .done (.success (.string "text")))⟩

/-- The two functions in the registry of a global context, in some order, and a block below it. -/
def describing (functions : List Function) : State :=
  State.update { store := ⟨#[{}, {}]⟩ } 0
    (fun registry => registry.addFunctions "describe" functions)

/-- A number is described from within the block, wherever the function for texts stands. -/
theorem invoke_of_reordered_describe :
    let arguments := [Argument.positional (.int 5)]
    let left := describing [describeNumber, describeText]
    let right := describing [describeText, describeNumber]
    let ended := invoke (perform 1) shadowingBlock " describe " arguments left
    let ended' := invoke (perform 1) shadowingBlock "describe" arguments right
    (∀ scope ∈ shadowingBlock.ancestry, scope.Selects "describe" arguments left) ∧
      shadowingBlock.Ignores (State.Reordered "describe") ∧ left.Reordered "describe" right ∧
      Spares "describe" 1 left ended.2 ∧
      ended.1 = some (.success (.string "number")) ∧
      ended.1 = ended'.1 ∧ SameBodies left right ended.2 ended'.2 ∧
      ended.2.Reordered "describe" ended'.2 ∧ left.Kept "describe" ended.2 ∧
      right.Kept "describe" ended'.2 := by
  intro arguments left right ended ended'
  have hscopes : shadowingBlock.ancestry = [shadowingBlock, .root ⟨0, .global, .permissive, {}⟩] :=
    rfl
  have hpolicy : ∀ scope ∈ shadowingBlock.ancestry, scope.policy = .permissive := by
    intro scope hmem
    simp only [hscopes, List.mem_cons, List.not_mem_nil, or_false] at hmem
    rcases hmem with rfl | rfl <;> rfl
  have hpermits : ∀ scope ∈ shadowingBlock.ancestry, ∀ check store, scope.Permits store check :=
    fun scope hmem check store => Context.permits_of_permissive (hpolicy scope hmem) check store
  have hpath : ∀ state, OpenPathIn "describe" state shadowingBlock shadowingBlock.ancestry :=
    fun state => openPathIn_of_permits List.prefix_rfl (fun scope hmem => hpermits scope hmem _ _)
      (fun scope hmem => hpermits scope hmem _ _)
  have hignores : shadowingBlock.Ignores (State.Reordered "describe") := by
    intro scope hmem
    rw [hpolicy scope hmem]
    exact .permissive
  have hselects : ∀ scope ∈ shadowingBlock.ancestry, scope.Selects "describe" arguments left := by
    intro scope hmem
    refine ⟨fun function _ => hpermits scope hmem _, ?_⟩
    simp only [hscopes, List.mem_cons, List.not_mem_nil, or_false] at hmem
    rcases hmem with rfl | rfl
    · decide
    · decide
  have hreordered : left.Reordered "describe" right :=
    State.reordered_of_perm _ 0 (.swap describeText describeNumber [])
  have hspares : Spares "describe" 1 left ended.2 := by
    have huntouched : ended.2.trace.any (Event.touches "describe" 1) = false := by
      simp only [ended, invoke, invokeFrom, shadowingBlock, search_eq, searchBeyond]
      rfl
    refine ⟨ended.2.trace, (List.append_nil _).symm, fun event hmem => ?_⟩
    exact Bool.eq_false_iff.mpr (List.any_eq_false.mp huntouched event hmem)
  have hanswer : ended.1 = some (.success (.string "number")) := by
    simp only [ended, invoke, invokeFrom, shadowingBlock, search_eq, searchBeyond]
    rfl
  exact ⟨hselects, hignores, hreordered, hspares, hanswer,
    invoke_of_reordered 1 (by rfl) (by rfl) hpath hselects hignores hreordered hspares⟩

end GuardedScript

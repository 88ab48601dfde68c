import Mathlib
import GuardedScript.Proofs.Inheritance
import GuardedScript.Proofs.Resolution
import GuardedScript.Proofs.Schedule

/-!
# The order in which members are tried

A member is looked for on the types of a value from the most specific one upward, and for each type
in the scopes from the innermost one outward.  A `Round` is the search for one type, and `Rounds`
relates a look-up to its rounds, the last of which is the first that succeeds.

Three things are said about the rounds.  Their answers decide: the first success counts, or else the
first failure (`verdict`).  The bodies that a context enters are those of the attempts that were
calls and that its policy admits, and the trace shows them in this order (`Rounds.enters`): what the
bodies do themselves is done by contexts further inside.  And this order is lexicographic, by the
type, the distance of the scope and the position among the functions there
(`pairwise_ranks`).

`members_resolve_by_specificity` states all of this for member functions, properties, operators and
conversions.
-/

set_option autoImplicit false

namespace GuardedScript

/-! ### Bodies that a context enters -/

/-- The look-up with which an event enters a body on behalf of a context at a depth. -/
def Event.entrance? (depth : Nat) : Event → Option (Option Lookup)
  | .entered lookup caller _ => if caller.depth = depth then some lookup else none
  | _ => none

/-- If an event enters a body, then on behalf of a context or of one further inside. -/
def Event.EntersInside (context : Context) : Event → Prop
  | .entered _ caller _ => caller = context ∨ context.depth < caller.depth
  | _ => True

/-- Between two states a context enters the bodies with some look-ups, in this order.  All other
bodies are entered further inside. -/
def Enters (context : Context) (lookups : List Lookup) (state final : State) : Prop :=
  ∃ events, final.trace = events ++ state.trace ∧ (∀ event ∈ events, event.EntersInside context) ∧
    events.reverse.filterMap (Event.entrance? context.depth) = lookups.map some

section Enters

variable {context : Context} {lookups others : List Lookup} {state reached final : State}

/-- Doing nothing enters no body. -/
theorem enters_refl (context : Context) (state : State) : Enters context [] state state :=
  ⟨[], rfl, fun _ hmem => absurd hmem List.not_mem_nil, rfl⟩

/-- What two parts of a run enter, both together do. -/
theorem Enters.trans (hfirst : Enters context lookups state reached)
    (hsecond : Enters context others reached final) :
    Enters context (lookups ++ others) state final := by
  obtain ⟨older, holder, hinside, hlookups⟩ := hfirst
  obtain ⟨newer, hnewer, hinside', hothers⟩ := hsecond
  refine ⟨newer ++ older, by rw [hnewer, holder, List.append_assoc], ?_, ?_⟩
  · intro event hmem
    rcases List.mem_append.mp hmem with hnew | hold
    · exact hinside' event hnew
    · exact hinside event hold
  · rw [List.reverse_append, List.filterMap_append, hlookups, hothers, List.map_append]

/-- An event that enters no body. -/
theorem enters_log (event : Event) (hentrance : event.entrance? context.depth = none)
    (hinside : event.EntersInside context) (state : State) :
    Enters context [] state (state.log event) :=
  ⟨[event], rfl, fun _ hmem => List.mem_singleton.mp hmem ▸ hinside, by simp [hentrance]⟩

/-- A question enters no body. -/
theorem enters_asked (context scope : Context) (check : Check) (state : State) :
    Enters context [] state (state.asked scope check) :=
  enters_log (.checked scope check (scope.decision state.store check)) rfl trivial state

/-- A question after a run enters no further body. -/
theorem Enters.asked (h : Enters context lookups state final) (scope : Context) (check : Check) :
    Enters context lookups state (final.asked scope check) := by
  have hasked := h.trans (enters_asked context scope check final)
  rwa [List.append_nil] at hasked

/-- What is done further inside enters no body on behalf of the context. -/
theorem enters_of_leaves (h : Leaves (fun inner => context.depth < inner.depth) state final) :
    Enters context [] state final := by
  obtain ⟨events, hevents, hwithin⟩ := h
  refine ⟨events, hevents, ?_, ?_⟩
  · intro event hmem
    have hevent := hwithin event hmem
    cases event with
    | entered lookup caller callee => exact .inr hevent.1
    | _ => trivial
  · rw [List.map_nil, List.filterMap_eq_nil_iff]
    intro event hmem
    have hevent := hwithin event (List.mem_reverse.mp hmem)
    cases event with
    | entered lookup caller callee => exact if_neg (Nat.ne_of_gt hevent.1)
    | _ => rfl

/-- A call starts with entering the body on behalf of the caller. -/
theorem enters_called (lookup : Lookup) (function : Function) (state : State) :
    Enters context [lookup] state (state.called (some lookup) context function) := by
  have hasked := enters_asked context context (.runFunction function) state
  have hderived := hasked.trans
    (enters_log (.derived context function (context.derivation state.store function)) rfl trivial _)
  refine hderived.trans ⟨[_], rfl, ?_, ?_⟩
  · intro event hmem
    rw [List.mem_singleton.mp hmem]
    exact .inl rfl
  · exact congrArg Option.toList (if_pos rfl)

end Enters

/-! ### Calls -/

/-- Whether a context gets to run a function: its policy neither refuses nor fails to derive the
policy of the call. -/
def Context.admits (context : Context) (store : Store) (function : Function) : Bool :=
  !(context.decision store (.runFunction function)).isFailure &&
    !(context.derivation store function).isFailure

section Calls

variable {context : Context} {function : Function}

/-- A context admits what its policy permits and derives a policy for. -/
theorem Context.admits_iff {store : Store} : context.admits store function = true ↔
    context.Permits store (.runFunction function) ∧
      ∀ reason, context.derivation store function ≠ .failure reason := by
  unfold Context.admits Context.Permits
  cases context.decision store (.runFunction function) <;>
    cases context.derivation store function <;> simp [Outcome.isFailure]

/-- The body of a call is run further inside. -/
theorem body_enters (fuel : Nat) (store : Store) (bindings : Bindings) (state : State) :
    Enters context [] state
      (perform fuel (context.calleeAt store function) (.run function bindings) state).2 := by
  have hdescends := inheritance_descends (inherited_depth context.depth)
  obtain ⟨bodies, -⟩ := hdescends.perform_holds fuel
  have hinside : context.depth < (context.calleeAt store function).depth := Nat.lt_succ_self _
  have hbinds : Terms.any.Binds bindings := ⟨fun _ _ => trivial, fun _ _ => trivial⟩
  exact enters_of_leaves
    (bodies hinside (context.kind_calleeAt store function) function.abides_any hbinds state
      trivial).1

/-- A call enters one body on behalf of the caller, if the caller admits the function. -/
theorem invokeObject_enters (context : Context) (function : Function) (fuel : Nat)
    (lookup : Lookup) (bindings : Bindings) (state : State) :
    Enters context (if context.admits state.store function then [lookup] else []) state
      (invokeObject (perform fuel) (some lookup) context function bindings state).2 := by
  have hasked := enters_asked context context (.runFunction function) state
  rcases context.refused_or_underived_or_granted state.store function with
    ⟨reason, refused⟩ | ⟨permits, reason, underived⟩ | ⟨permits, derived⟩
  · have hadmits : ¬ context.admits state.store function = true :=
      fun h => (Context.admits_iff.mp h).1 reason refused
    rw [if_neg hadmits, invokeObject_of_refused _ _ _ _ refused]
    exact hasked
  · have hadmits : ¬ context.admits state.store function = true :=
      fun h => (Context.admits_iff.mp h).2 reason underived
    rw [if_neg hadmits, invokeObject_of_underived _ _ _ _ permits underived]
    exact hasked.trans (enters_log (.derived context function (.failure reason)) rfl trivial _)
  · rw [if_pos (Context.admits_iff.mpr ⟨permits, derived⟩),
      invokeObject_of_permits _ _ _ _ permits derived]
    exact (enters_called lookup function state).trans (body_enters fuel _ bindings _)

end Calls

/-! ### Searches -/

/-- The look-up of an attempt that enters a body on behalf of a context: a call of a function that
the context admits when the attempt is made. -/
def Attempt.entrance? (context : Context) (key : String) (attempt : Attempt) : Option Lookup :=
  match attempt.trial with
  | .called _ _ =>
    if context.admits attempt.state.store attempt.function then
      some ⟨key, attempt.scope, attempt.position⟩
    else
      none
  | _ => none

section Searches

variable {context scope : Context} {key : String} {arguments : List (Argument Value)}
  {functions : List Function} {position fuel : Nat} {state final : State}
  {attempts : List Attempt} {entries : List (Context × State)} {stop : Option Failure}

/-- Candidates that are passed over enter no body. -/
theorem filterMap_entrance?_passedOver (context : Context) (key : String) :
    (passedOver scope functions position final).filterMap (Attempt.entrance? context key) = [] := by
  rw [List.filterMap_eq_nil_iff]
  intro attempt hmem
  obtain ⟨candidate, -, rfl⟩ := List.mem_map.mp hmem
  rfl

/-- The first element of a list is mapped apart from the rest. -/
private theorem filterMap_cons_eq_append {α β : Type} (f : α → Option β) (a : α) (l : List α) :
    (a :: l).filterMap f = (f a).toList ++ l.filterMap f := by
  cases h : f a <;> simp [h]

/-- A call among the attempts enters the body that it should. -/
theorem call_enters {function : Function} {bindings : Bindings} {outcome : Outcome Value}
    (call : invokeObject (perform fuel) (some ⟨key, scope, position⟩) context function bindings
      (state.asked scope (.tryFunction key function)) = (some outcome, final)) :
    Enters context
      (Attempt.entrance? context key
        ⟨scope, position, function, state, .called bindings outcome⟩).toList state final := by
  have hcall := (enters_asked context scope (.tryFunction key function) state).trans
    (invokeObject_enters context function fuel ⟨key, scope, position⟩ bindings _)
  rw [call, State.store_asked] at hcall
  unfold Attempt.entrance?
  cases hadmits : context.admits state.store function <;> simpa [hadmits] using hcall

/-- The attempts in one scope enter their bodies one after the other. -/
theorem Tries.enters
    (h : Tries (perform fuel) context key arguments scope functions position state attempts final) :
    Enters context (attempts.filterMap (Attempt.entrance? context key)) state final := by
  induction h with
  | nil position state => exact enters_refl context state
  | denied _ _ ih => exact (enters_asked context scope _ _).trans ih
  | unfit _ _ _ ih => exact (enters_asked context scope _ _).trans ih
  | failed _ _ call _ _ ih =>
    rw [filterMap_cons_eq_append]
    exact (call_enters call).trans ih
  | succeeded _ _ call =>
    rw [filterMap_cons_eq_append, filterMap_entrance?_passedOver, List.append_nil]
    exact call_enters call

/-- A search enters the bodies of its attempts. -/
theorem Searches.enters
    (h : Searches (perform fuel) context key arguments scope state entries attempts stop final) :
    Enters context (attempts.filterMap (Attempt.entrance? context key)) state final := by
  induction h with
  | found tries => exact tries.enters
  | outermost tries => exact tries.enters
  | kept tries => exact tries.enters.asked _ _
  | barred tries => exact (tries.enters.asked _ _).asked _ _
  | outward tries _ _ _ _ ih =>
    rw [List.filterMap_append]
    exact ((tries.enters.asked _ _).asked _ _).trans ih

/-- A whole search enters the bodies of its attempts. -/
theorem Resolves.enters
    (h : Resolves (perform fuel) context key arguments scope state entries attempts stop final) :
    Enters context (attempts.filterMap (Attempt.entrance? context key)) state final := by
  cases h with
  | refused => exact enters_asked context scope _ state
  | asked _ search => exact (enters_asked context scope _ state).trans search.enters

/-- No body is entered after a success. -/
theorem Accounted.pairwise (h : Accounted key arguments attempts) :
    attempts.Pairwise (fun earlier later =>
      earlier.success? ≠ none → ∀ key, later.entrance? context key = none) := by
  rw [List.pairwise_iff_getElem]
  intro i j hi hj hlt success key
  have hsplit : attempts = attempts.take j ++ attempts[j] :: attempts.drop (j + 1) := by simp
  cases htrial : attempts[j].trial with
  | called bindings outcome =>
    obtain ⟨unsuccessful, -, -⟩ := (h _ _ _ hsplit bindings).mp ⟨outcome, htrial⟩
    have hmem : attempts[i] ∈ attempts.take j :=
      List.mem_take_iff_getElem.mpr ⟨i, by omega, rfl⟩
    exact absurd (unsuccessful _ hmem) success
  | _ => simp only [Attempt.entrance?, htrial]

end Searches

/-! ### Rounds -/

/-- The search for a member on one type: the key, the scopes it comes to with the states in which it
does, its attempts, and the refusal that ended it. -/
structure Round where
  key : String
  entries : List (Context × State)
  attempts : List Attempt
  stop : Option Failure

namespace Round

/-- The answer of a round. -/
def answer (round : Round) : Outcome Value :=
  GuardedScript.answer round.attempts round.stop

/-- The look-ups of the bodies that a round enters on behalf of a context. -/
def entrances (context : Context) (round : Round) : List Lookup :=
  round.attempts.filterMap (Attempt.entrance? context round.key)

/-- What a round has to do with the scopes: it goes outward along an open path, its attempts are for
the functions under the key as they are when it comes to a scope, and it calls those with bindings
that may be tried until one succeeds. -/
structure Regular (context : Context) (arguments : List (Argument Value)) (round : Round) :
    Prop where
  path : OpenPath round.key context round.entries
  candidates : round.attempts.map Attempt.candidate =
    round.entries.flatMap (candidates round.key)
  accounted : Accounted round.key arguments round.attempts

end Round

/-- Searches on behalf of a context for one key after the other, up to the first success, with the
states before and after them. -/
inductive Rounds (perform : Evaluator) (context : Context) (arguments : List (Argument Value)) :
    List String → State → List Round → State → Prop
  | nil (state : State) : Rounds perform context arguments [] state [] state
  | found {round : Round} {state final : State} (keys : List String)
      (resolves : Resolves perform context round.key arguments context state round.entries
        round.attempts round.stop final)
      (success : round.answer.success? ≠ none) :
      Rounds perform context arguments (round.key :: keys) state [round] final
  | next {round : Round} {rounds : List Round} {keys : List String} {state reached final : State}
      (resolves : Resolves perform context round.key arguments context state round.entries
        round.attempts round.stop reached)
      (unsuccessful : round.answer.success? = none)
      (rest : Rounds perform context arguments keys reached rounds final) :
      Rounds perform context arguments (round.key :: keys) state (round :: rounds) final

/-- What several answers come to after a failure that may have been noted before: the first success,
or else the first failure. -/
def verdictAfter (noted : Option Failure) (answers : List (Outcome Value)) : Outcome Value :=
  match answers.findSome? Outcome.success? with
  | some value => .success value
  | none =>
    match noted.or (answers.findSome? Outcome.failure?) with
    | some reason => .failure reason
    | none => .empty

/-- What several answers come to: the first success, or else the first failure, or else nothing. -/
def verdict (answers : List (Outcome Value)) : Outcome Value :=
  verdictAfter none answers

section Verdicts

variable (noted : Option Failure) (answers : List (Outcome Value))

/-- A success is the verdict, whatever was noted. -/
theorem verdictAfter_cons_success (value : Value) :
    verdictAfter noted (.success value :: answers) = .success value := rfl

/-- An answer without a value does not count. -/
theorem verdictAfter_cons_empty :
    verdictAfter noted (.empty :: answers) = verdictAfter noted answers := rfl

/-- A failure is noted, unless one was before. -/
theorem verdictAfter_cons_failure (reason : Failure) :
    verdictAfter noted (.failure reason :: answers) =
      verdictAfter (noted.or (some reason)) answers := by
  cases noted <;> rfl

/-- The verdict succeeds with the first success. -/
theorem success?_verdictAfter :
    (verdictAfter noted answers).success? = answers.findSome? Outcome.success? := by
  unfold verdictAfter
  split
  · next value hfound => rw [hfound]; rfl
  · next hnone =>
    rw [hnone]
    split <;> rfl

end Verdicts

section Rounds

variable {perform : Evaluator} {context : Context} {arguments : List (Argument Value)}
  {key : String} {state final : State} {round : Round} {rounds : List Round}
  {keys : List String} {attempts : List Attempt} {entries : List (Context × State)}
  {stop : Option Failure} {outcome : Outcome Value}

/-- A call by name that returns has searched. -/
theorem exists_resolves_of_invoke {name : String}
    (h : invoke perform context name arguments state = (some outcome, final)) :
    ∃ round : Round, round.key = Text.key name ∧ Resolves perform context round.key arguments
      context state round.entries round.attempts round.stop final ∧ outcome = round.answer := by
  rw [invoke, invokeFrom] at h
  rcases context.refused_or_permits state.store (.askForFunction (Text.key name)) with
    ⟨reason, refused⟩ | asked
  · rw [Context.run_guarded_of_refused _ _ _ refused, Run.pure_apply] at h
    cases h
    exact ⟨⟨Text.key name, [], [], _⟩, rfl, .refused refused, rfl⟩
  · rw [Context.run_guarded_of_permits _ _ _ asked] at h
    obtain ⟨entries, attempts, stop, hsearch, rfl⟩ := exists_searches_of_search h
    exact ⟨⟨Text.key name, entries, attempts, stop⟩, rfl, .asked asked hsearch,
      conclude_empty attempts stop⟩

/-- A whole search is a regular round. -/
theorem Resolves.regular
    (h : Resolves perform context key arguments context state entries attempts stop final) :
    Round.Regular context arguments ⟨key, entries, attempts, stop⟩ := by
  cases h with
  | refused => exact ⟨openPath_nil _ context, rfl, accounted_nil⟩
  | asked asked search => exact ⟨search.openPath asked, search.map_candidate, search.accounted⟩

/-- All rounds are regular. -/
theorem Rounds.regular (h : Rounds perform context arguments keys state rounds final) :
    ∀ round ∈ rounds, round.Regular context arguments := by
  induction h with
  | nil state => exact fun _ hmem => absurd hmem List.not_mem_nil
  | found keys resolves success =>
    intro round hmem
    rw [List.mem_singleton.mp hmem]
    exact resolves.regular
  | next resolves _ _ ih =>
    intro round hmem
    rcases List.mem_cons.mp hmem with rfl | hmem
    · exact resolves.regular
    · exact ih round hmem

/-- Rounds enter their bodies one after the other. -/
theorem Rounds.enters {fuel : Nat}
    (h : Rounds (GuardedScript.perform fuel) context arguments keys state rounds final) :
    Enters context (rounds.flatMap (Round.entrances context)) state final := by
  induction h with
  | nil state => exact enters_refl context state
  | found keys resolves success =>
    rw [List.flatMap_singleton]
    exact resolves.enters
  | next resolves _ _ ih =>
    rw [List.flatMap_cons]
    exact resolves.enters.trans ih

/-- Without a success every key has its round. -/
theorem Rounds.exhaustive (h : Rounds perform context arguments keys state rounds final)
    (unsuccessful : ∀ round ∈ rounds, round.answer.success? = none) :
    rounds.map Round.key = keys := by
  induction h with
  | nil state => rfl
  | found keys resolves success => exact absurd (unsuccessful _ (List.mem_cons_self ..)) success
  | next _ _ _ ih =>
    rw [List.map_cons, ih (fun round hmem => unsuccessful round (List.mem_cons_of_mem _ hmem))]

/-- In any case the rounds are those of the first keys. -/
theorem Rounds.map_key (h : Rounds perform context arguments keys state rounds final) :
    rounds.map Round.key <+: keys := by
  induction h with
  | nil state => exact List.prefix_rfl
  | found keys resolves success => exact ⟨keys, rfl⟩
  | next _ _ _ ih => exact List.cons_prefix_cons.mpr ⟨rfl, ih⟩

/-- A round succeeds if one of its attempts does. -/
theorem Round.success?_answer (round : Round) :
    round.answer.success? = round.attempts.findSome? Attempt.success? := by
  unfold Round.answer GuardedScript.answer
  split
  · next value hfound => rw [hfound]; rfl
  · next hnone =>
    rw [hnone]
    split <;> rfl

/-- No body is entered after the first success. -/
theorem Rounds.pairwise_attempts
    (h : Rounds perform context arguments keys state rounds final) :
    (rounds.flatMap Round.attempts).Pairwise (fun earlier later =>
      earlier.success? ≠ none → ∀ key, later.entrance? context key = none) := by
  induction h with
  | nil state => exact .nil
  | found keys resolves success =>
    rw [List.flatMap_singleton]
    exact resolves.regular.accounted.pairwise
  | @next round _ _ _ _ _ resolves unsuccessful _ ih =>
    rw [List.flatMap_cons, List.pairwise_append]
    refine ⟨resolves.regular.accounted.pairwise, ih, ?_⟩
    intro earlier hearlier later _ success
    rw [round.success?_answer] at unsuccessful
    exact absurd (findSome?_success?_eq_none.mp unsuccessful earlier hearlier) success

/-- Going through the types of a value makes one round after the other. -/
theorem exists_rounds_of_invokeOnTypes {kind : MemberKind} {member : String}
    {typeNames : List String} {noted : Option Failure}
    (h : invokeOnTypes perform context kind member arguments typeNames noted state =
      (some outcome, final)) :
    ∃ rounds, Rounds perform context arguments
        (typeNames.map (fun typeName => Text.key (MemberKey.text ⟨kind, typeName, member⟩))) state
        rounds final ∧
      outcome = verdictAfter noted (rounds.map Round.answer) := by
  induction typeNames generalizing noted state with
  | nil =>
    cases noted with
    | none =>
      cases h
      exact ⟨[], .nil _, rfl⟩
    | some reason =>
      cases h
      exact ⟨[], .nil _, rfl⟩
  | cons typeName typeNames ih =>
    rw [invokeOnTypes, Run.bind_apply] at h
    split at h
    · next answer reached hinvoke =>
      obtain ⟨round, hkey, hresolves, rfl⟩ := exists_resolves_of_invoke hinvoke
      rw [List.map_cons, ← hkey]
      cases hanswer : round.answer with
      | success value =>
        rw [hanswer] at h
        cases h
        refine ⟨[round], .found _ hresolves (by simp [hanswer, Outcome.success?]), ?_⟩
        rw [List.map_cons, hanswer, verdictAfter_cons_success]
      | empty =>
        rw [hanswer] at h
        obtain ⟨rounds, hrounds, rfl⟩ := ih h
        refine ⟨round :: rounds, .next hresolves (by rw [hanswer]; rfl) hrounds, ?_⟩
        rw [List.map_cons, hanswer, verdictAfter_cons_empty]
      | failure reason =>
        rw [hanswer] at h
        obtain ⟨rounds, hrounds, rfl⟩ := ih h
        refine ⟨round :: rounds, .next hresolves (by rw [hanswer]; rfl) hrounds, ?_⟩
        rw [List.map_cons, hanswer, verdictAfter_cons_failure]
    · cases h

end Rounds

/-! ### The order of the bodies -/

namespace Context

/-- How far outward a scope around a context is. -/
def distance (context scope : Context) : Nat :=
  context.depth - scope.depth

/-- What is around a context is not deeper. -/
theorem depth_le_of_mem_ancestry {context scope : Context} (h : scope ∈ context.ancestry) :
    scope.depth ≤ context.depth := by
  induction context with
  | root frame => exact Nat.le_of_eq (congrArg depth (List.mem_singleton.mp h))
  | nested frame parent ih =>
    rcases List.mem_cons.mp h with rfl | h
    · exact Nat.le_refl _
    · exact Nat.le_succ_of_le (ih h)

/-- The distance is the place among the contexts around. -/
theorem getElem?_distance {context scope : Context} (h : scope ∈ context.ancestry) :
    context.ancestry[context.distance scope]? = some scope := by
  induction context with
  | root frame =>
    rw [List.mem_singleton.mp h]
    rfl
  | nested frame parent ih =>
    rcases List.mem_cons.mp h with rfl | h
    · simp [distance, ancestry]
    · have hdistance : (nested frame parent).distance scope = parent.distance scope + 1 :=
        Nat.succ_sub (depth_le_of_mem_ancestry h)
      rw [hdistance, ancestry, List.getElem?_cons_succ]
      exact ih h

/-- Contexts further outward are at greater distances. -/
theorem pairwise_distance (context : Context) :
    context.ancestry.Pairwise
      (fun inner outer => context.distance inner < context.distance outer) := by
  have hdepth : context.ancestry.Pairwise (fun inner outer => outer.depth < inner.depth) := by
    induction context with
    | root frame => exact List.pairwise_singleton _ _
    | nested frame parent ih =>
      refine List.pairwise_cons.mpr ⟨fun outer h => ?_, ih⟩
      exact Nat.lt_succ_of_le (depth_le_of_mem_ancestry h)
  refine hdepth.imp_of_mem (fun hinner _ hlt => ?_)
  have hle := depth_le_of_mem_ancestry hinner
  unfold distance
  omega

end Context

/-- What decides when a candidate has its turn within a round: the distance of its scope, and then
its position there. -/
def Context.standing (context scope : Context) (position : Nat) : Nat × Nat :=
  (context.distance scope, position)

/-- When the bodies that rounds enter have their turns: by the place of the type in the hierarchy,
the distance of the scope, and the position there. -/
def ranks (context : Context) (rounds : List Round) : List (Nat × Nat × Nat) :=
  rounds.zipIdx.flatMap (fun entry => (entry.1.entrances context).map (fun lookup =>
    (entry.2, context.standing lookup.scope lookup.position)))

section Order

variable {context : Context} {arguments : List (Argument Value)} {round : Round}
  {rounds : List Round}

/-- The attempts of a round go outward, and in the order of registration within a scope. -/
theorem Round.Regular.pairwise_attempts (h : round.Regular context arguments) :
    round.attempts.Pairwise (fun attempt other => Prod.Lex (· < ·) (· < ·)
      (context.standing attempt.scope attempt.position)
      (context.standing other.scope other.position)) := by
  have hcandidates : (round.attempts.map Attempt.candidate).Pairwise (fun candidate other =>
      Prod.Lex (· < ·) (· < ·) (context.standing candidate.1 candidate.2.2)
        (context.standing other.1 other.2.2)) := by
    rw [h.candidates, List.pairwise_flatMap]
    constructor
    · intro entry _
      refine List.pairwise_map.mpr ((pairwise_snd_zipIdx _).imp ?_)
      intro candidate other hlt
      exact .right _ hlt
    · have hscopes : (round.entries.map Prod.fst).Pairwise
          (fun inner outer => context.distance inner < context.distance outer) :=
        context.pairwise_distance.sublist h.path.outward.sublist
      refine (List.pairwise_map.mp hscopes).imp ?_
      intro entry outer hlt candidate hcandidate other hother
      obtain ⟨found, -, rfl⟩ := List.mem_map.mp hcandidate
      obtain ⟨next, -, rfl⟩ := List.mem_map.mp hother
      exact .left _ _ hlt
  rw [List.pairwise_map] at hcandidates
  exact hcandidates

/-- The body of an attempt is entered with the look-up of the attempt. -/
theorem Attempt.entrance?_eq_some {key : String} {attempt : Attempt} {lookup : Lookup}
    (h : attempt.entrance? context key = some lookup) :
    lookup = ⟨key, attempt.scope, attempt.position⟩ := by
  unfold Attempt.entrance? at h
  split at h
  · split at h
    · exact (Option.some.inj h).symm
    · cases h
  · cases h

/-- The bodies of a round are entered outward, and in the order of registration within a scope. -/
theorem Round.Regular.pairwise_entrances (h : round.Regular context arguments) :
    (round.entrances context).Pairwise (fun lookup other => Prod.Lex (· < ·) (· < ·)
      (context.standing lookup.scope lookup.position)
      (context.standing other.scope other.position)) := by
  refine h.pairwise_attempts.filterMap _ ?_
  intro attempt other hlt lookup hlookup next hnext
  rw [Attempt.entrance?_eq_some hlookup, Attempt.entrance?_eq_some hnext]
  exact hlt

/-- Bodies are entered in the lexicographic order of their ranks. -/
theorem pairwise_ranks (h : ∀ round ∈ rounds, round.Regular context arguments) :
    (ranks context rounds).Pairwise (Prod.Lex (· < ·) (Prod.Lex (· < ·) (· < ·))) := by
  rw [ranks, List.pairwise_flatMap]
  constructor
  · intro entry hentry
    have hround : entry.1 ∈ rounds := List.fst_mem_of_mem_zipIdx hentry
    refine List.pairwise_map.mpr ((h entry.1 hround).pairwise_entrances.imp ?_)
    intro lookup other hlt
    exact .right _ hlt
  · refine (pairwise_snd_zipIdx rounds).imp ?_
    intro entry later hlt rank hrank other hother
    obtain ⟨lookup, -, rfl⟩ := List.mem_map.mp hrank
    obtain ⟨next, -, rfl⟩ := List.mem_map.mp hother
    exact .left _ _ hlt

/-- The scope of an attempt of a round is at its distance from the context. -/
theorem Round.Regular.getElem?_ancestry (h : round.Regular context arguments) :
    ∀ lookup ∈ round.entrances context,
      context.ancestry[context.distance lookup.scope]? = some lookup.scope := by
  intro lookup hlookup
  obtain ⟨attempt, hattempt, hentrance⟩ := List.mem_filterMap.mp hlookup
  rw [Attempt.entrance?_eq_some hentrance]
  have hscope := scope_mem_of_map_candidate h.candidates hattempt
  exact Context.getElem?_distance (h.path.outward.subset hscope)

end Order

/-! ### Members -/

/-- A look-up under some keys, one for each type, that returned after some rounds. -/
structure Dispatch (perform : Evaluator) (context : Context) (arguments : List (Argument Value))
    (keys : List String) (state final : State) (outcome : Outcome Value) (rounds : List Round) :
    Prop where
  /-- There is one search after the other, up to the first success. -/
  resolved : Rounds perform context arguments keys state rounds final
  regular : ∀ round ∈ rounds, round.Regular context arguments
  /-- The types have their rounds in order, and all of them unless one succeeds. -/
  inTurn : rounds.map Round.key <+: keys
  exhaustive : outcome.success? = none → rounds.map Round.key = keys
  /-- The first success is the answer, or else the failure of the most specific type with one. -/
  decided : outcome = verdict (rounds.map Round.answer)
  /-- These bodies are entered, in this order, and no others except by them. -/
  entered : Enters context (rounds.flatMap (Round.entrances context)) state final
  /-- The order is that of the types, the scopes and the positions. -/
  ordered : (ranks context rounds).Pairwise (Prod.Lex (· < ·) (Prod.Lex (· < ·) (· < ·)))
  placed : ∀ round ∈ rounds, ∀ lookup ∈ round.entrances context,
    context.ancestry[context.distance lookup.scope]? = some lookup.scope
  /-- No body is entered after a success. -/
  ended : (rounds.flatMap Round.attempts).Pairwise (fun earlier later =>
    earlier.success? ≠ none → ∀ key, later.entrance? context key = none)

/-- What a look-up of a member on a type comes to.  If the policy refuses it, it fails for that
reason, and nothing else happens.  Otherwise it is made by rounds. -/
def Dispatched (perform : Evaluator) (context : Context) (check : Check) (action : String)
    (kind : MemberKind) (type : ValueType) (member : String) (arguments : List (Argument Value))
    (state : State) (outcome : Outcome Value) (final : State) : Prop :=
  (∃ reason, context.decision state.store check = .failure reason ∧
    outcome = .failure ((Failure.accessDenied action).causedBy reason) ∧
    final = state.asked context check) ∨
  context.Permits state.store check ∧ ∃ rounds, Dispatch perform context arguments
    (type.hierarchy.map (fun typeName => Text.key (MemberKey.text ⟨kind, typeName, member⟩)))
    (state.asked context check) final outcome rounds

/-- What an operation comes to that resolves an operand first: it goes on with the value, or it ends
like the operand if that has none. -/
def Supplied (perform : Evaluator) (context : Context) (operand : Value) (state : State)
    (outcome : Outcome Value) (final : State) (next : Value → State → Prop) : Prop :=
  (∃ value reached, resolve perform context operand state = (some (.success value), reached) ∧
    next value reached) ∨
  outcome.success? = none ∧ resolve perform context operand state = (some outcome, final)

section Members

variable {context : Context} {arguments : List (Argument Value)} {state final : State}
  {outcome : Outcome Value}

/-- Rounds up to the first success are a whole look-up. -/
theorem Rounds.dispatch {fuel : Nat} {keys : List String} {rounds : List Round}
    (h : Rounds (perform fuel) context arguments keys state rounds final) :
    Dispatch (perform fuel) context arguments keys state final
      (verdict (rounds.map Round.answer)) rounds where
  resolved := h
  regular := h.regular
  inTurn := h.map_key
  exhaustive := by
    intro unsuccessful
    rw [verdict, success?_verdictAfter, List.findSome?_eq_none_iff] at unsuccessful
    exact h.exhaustive (fun round hmem => unsuccessful _ (List.mem_map_of_mem hmem))
  decided := rfl
  entered := h.enters
  ordered := pairwise_ranks h.regular
  placed := fun round hmem => (h.regular round hmem).getElem?_ancestry
  ended := h.pairwise_attempts

/-- A look-up of a member that returns was refused or has made its rounds. -/
theorem dispatched_of_invokeMember {fuel : Nat} {check : Check} {action member : String}
    {kind : MemberKind} {type : ValueType}
    (h : invokeMember (perform fuel) context check action kind type member arguments state =
      (some outcome, final)) :
    Dispatched (perform fuel) context check action kind type member arguments state outcome
      final := by
  rw [invokeMember] at h
  rcases context.refused_or_permits state.store check with ⟨reason, refused⟩ | permits
  · rw [Context.run_guarded_of_refused _ _ _ refused] at h
    cases h
    exact .inl ⟨reason, refused, rfl, rfl⟩
  · rw [Context.run_guarded_of_permits _ _ _ permits] at h
    obtain ⟨rounds, hrounds, rfl⟩ := exists_rounds_of_invokeOnTypes h
    exact .inr ⟨permits, rounds, hrounds.dispatch⟩

/-- An operation that returns has resolved its operand first. -/
theorem supplied_of_bind {perform : Evaluator} {operand : Value}
    {next : Outcome Value → Run (Outcome Value)}
    (h : (resolve perform context operand >>= next) state = (some outcome, final))
    (hempty : next .empty = pure .empty)
    (hfailure : ∀ reason, next (.failure reason) = pure (.failure reason)) :
    Supplied perform context operand state outcome final
      (fun value reached => next (.success value) reached = (some outcome, final)) := by
  rw [Run.bind_apply] at h
  split at h
  · next resolved reached hresolve =>
    cases resolved with
    | success value => exact .inl ⟨value, reached, hresolve, h⟩
    | empty =>
      rw [hempty] at h
      cases h
      exact .inr ⟨rfl, hresolve⟩
    | failure reason =>
      rw [hfailure] at h
      cases h
      exact .inr ⟨rfl, hresolve⟩
  · cases h

/-- What follows from going on with the value follows from the operation. -/
theorem Supplied.imp {perform : Evaluator} {operand : Value} {P Q : Value → State → Prop}
    (h : Supplied perform context operand state outcome final P)
    (himp : ∀ value reached, P value reached → Q value reached) :
    Supplied perform context operand state outcome final Q := by
  rcases h with ⟨value, reached, hresolve, hnext⟩ | hother
  · exact .inl ⟨value, reached, hresolve, himp value reached hnext⟩
  · exact .inr hother

end Members

/-- Members are tried by type, then by scope, then by registration.

A look-up of a member function, a property, an operator or a conversion that returns has resolved
its operands, or ends like the first operand that fails or has no value.  If the policy refuses the
look-up, it fails with that refusal as the cause, and no function is looked for.  Otherwise there is
one search for each type of the receiver, from the most specific one upward, up to the first
success.  The bodies that the context enters are shown by the trace.  Their order is the
lexicographic one of the place of the type, the distance of the scope and the position among the
functions there when the search came to it, and none is entered after a success.  Without a success
the failure of the most specific type that has one is the answer, be it a refusal or not, and
nothing only if no type has one. -/
theorem members_resolve_by_specificity (fuel : Nat) (context : Context) (state final : State)
    (outcome : Outcome Value) :
    (∀ receiver name arguments,
      invokeMemberFunction (perform fuel) context receiver name arguments state =
        (some outcome, final) →
      Supplied (perform fuel) context receiver state outcome final (fun value reached =>
        Dispatched (perform fuel) context (.askForMember value.type name)
          ("ask for member function '" ++ value.type.name ++ "." ++ name ++ "'") .function
          value.type name (.named selfArgument value :: arguments) reached outcome final)) ∧
    (∀ receiver name,
      readProperty (perform fuel) context receiver name state = (some outcome, final) →
      Supplied (perform fuel) context receiver state outcome final (fun value reached =>
        Dispatched (perform fuel) context (.askForProperty value.type name)
          ("ask for property '" ++ value.type.name ++ "." ++ name ++ "'") .property value.type
          name [.named selfArgument value] reached outcome final)) ∧
    (∀ left symbol right,
      applyOperator (perform fuel) context left symbol right state = (some outcome, final) →
      Supplied (perform fuel) context left state outcome final (fun first middle =>
        Supplied (perform fuel) context right middle outcome final (fun second reached =>
          Dispatched (perform fuel) context (.askForOperator first.type symbol)
            ("ask for operator '" ++ first.type.name ++ " " ++ symbol ++ "'") .operator first.type
            symbol [.named leftOperand first, .named rightOperand second] reached outcome
            final))) ∧
    (∀ operand target,
      castTo (perform fuel) context operand target state = (some outcome, final) →
      Supplied (perform fuel) context operand state outcome final (fun value reached =>
        Dispatched (perform fuel) context (.askForCast value.type target)
          ("ask for cast '" ++ value.type.name ++ "' to '" ++ target.name ++ "'") .cast value.type
          target.name [.named selfArgument value] reached outcome final)) := by
  refine ⟨?_, ?_, ?_, ?_⟩
  · intro receiver name arguments h
    have hreceiver := supplied_of_bind h rfl (fun _ => rfl)
    exact hreceiver.imp (fun _ _ => dispatched_of_invokeMember)
  · intro receiver name h
    have hreceiver := supplied_of_bind h rfl (fun _ => rfl)
    exact hreceiver.imp (fun _ _ => dispatched_of_invokeMember)
  · intro left symbol right h
    have hleft := supplied_of_bind h rfl (fun _ => rfl)
    refine hleft.imp (fun first middle hnext => ?_)
    have hright := supplied_of_bind hnext rfl (fun _ => rfl)
    exact hright.imp (fun _ _ => dispatched_of_invokeMember)
  · intro operand target h
    have hoperand := supplied_of_bind h rfl (fun _ => rfl)
    exact hoperand.imp (fun _ _ => dispatched_of_invokeMember)

/-! ### A specific member further outward -/

/-- A registry with one function for the member `touch` of a type, as a function, a property, an
operator and a conversion.  All of them give the same answer. -/
def touching (typeName : String) (answer : Outcome Value) : Registry where
  functions := .ofList ([MemberKind.function, .property, .operator, .cast].map (fun kind =>
    (MemberKey.text ⟨kind, typeName, "touch"⟩,
      [⟨0, "touch", [], true, .native (fun _ => .done answer)⟩])))

/-- The global context knows the member for integers, where it fails, and the block below it knows
the one for numbers, which answers. -/
def touched : State where
  store := ⟨#[touching "Int" (.failure (.accessDenied "touch")),
    touching "Number" (.success (.int 7))]⟩

/-- The bodies that the block has entered, each with its key, the place of its scope and its
position. -/
def enteredByBlock (state : State) : List (Option (String × Nat × Nat)) :=
  (state.trace.reverse.filterMap (Event.entrance? shadowingBlock.depth)).map
    (Option.map (fun lookup => (lookup.key, lookup.scope.id, lookup.position)))

/-- An operation on an integer asks for its member `touch`.  It comes to the function of the more
specific type first, although that is further outward. -/
def TouchesOutward (operation : Run (Outcome Value)) (check : Check) (action : String)
    (kind : MemberKind) (arguments : List (Argument Value)) : Prop :=
  ∃ final, operation touched = (some (.success (.int 7)), final) ∧
    Dispatched (perform 2) shadowingBlock check action kind .int "touch" arguments touched
      (.success (.int 7)) final ∧
    enteredByBlock final =
      [some (kind.stem ++ "_Int_touch", 0, 0), some (kind.stem ++ "_Number_touch", 1, 0)]

/-- An operation with these results touches outward. -/
theorem touchesOutward {operation : Run (Outcome Value)} {check : Check} {action : String}
    {kind : MemberKind} {arguments : List (Argument Value)}
    (hanswer : (operation touched).1 = some (.success (.int 7)))
    (hbodies : enteredByBlock (operation touched).2 =
      [some (kind.stem ++ "_Int_touch", 0, 0), some (kind.stem ++ "_Number_touch", 1, 0)])
    (hdispatched : ∀ final, operation touched = (some (.success (.int 7)), final) →
      Dispatched (perform 2) shadowingBlock check action kind .int "touch" arguments touched
        (.success (.int 7)) final) :
    TouchesOutward operation check action kind arguments :=
  have hreturns : operation touched = (some (.success (.int 7)), (operation touched).2) :=
    Prod.ext hanswer rfl
  ⟨_, hreturns, hdispatched _ hreturns, hbodies⟩

/-- An integer is its own value. -/
theorem Supplied.of_int {n : Int64} {state final : State} {value : Value}
    {next : Value → State → Prop}
    (h : Supplied (perform 2) shadowingBlock (.int n) state (.success value) final next) :
    next (.int n) state := by
  rcases h with ⟨value, reached, hresolve, hnext⟩ | ⟨hnone, -⟩
  · cases hresolve
    exact hnext
  · cases hnone

/-- All four operations on an integer fail on it as an integer first, in the outer context, and then
succeed on it as a number, in the block. -/
theorem members_resolve_by_specificity_outward :
    TouchesOutward (invokeMemberFunction (perform 2) shadowingBlock (.int 1) "touch" [])
      (.askForMember .int "touch") "ask for member function 'Int.touch'" .function
      [.named selfArgument (.int 1)] ∧
    TouchesOutward (readProperty (perform 2) shadowingBlock (.int 1) "touch")
      (.askForProperty .int "touch") "ask for property 'Int.touch'" .property
      [.named selfArgument (.int 1)] ∧
    TouchesOutward (applyOperator (perform 2) shadowingBlock (.int 1) "touch" (.int 2))
      (.askForOperator .int "touch") "ask for operator 'Int touch'" .operator
      [.named leftOperand (.int 1), .named rightOperand (.int 2)] ∧
    TouchesOutward (castTo (perform 2) shadowingBlock (.int 1) (.named "touch"))
      (.askForCast .int (.named "touch")) "ask for cast 'Int' to 'touch'" .cast
      [.named selfArgument (.int 1)] := by
  have hspecific := members_resolve_by_specificity 2 shadowingBlock touched
  refine ⟨touchesOutward (by cbv) (by cbv) ?_, touchesOutward (by cbv) (by cbv) ?_,
    touchesOutward (by cbv) (by cbv) ?_, touchesOutward (by cbv) (by cbv) ?_⟩
  · intro final hreturns
    exact ((hspecific _ _).1 _ _ _ hreturns).of_int
  · intro final hreturns
    exact ((hspecific _ _).2.1 _ _ hreturns).of_int
  · intro final hreturns
    exact ((hspecific _ _).2.2.1 _ _ _ hreturns).of_int.of_int
  · intro final hreturns
    exact ((hspecific _ _).2.2.2 _ _ hreturns).of_int

end GuardedScript

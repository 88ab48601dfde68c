import GuardedScript.Evaluation

/-!
# How a call by name is resolved

A search goes outward along the longest path of contexts in which functions may be looked for.  Its
candidates are the functions under the key in each context of the path, as they are when the search
comes to that context.  An `Attempt` is a candidate and what became of it, and `Resolves` relates a
search to its attempts, with the state in which each call was made.  The attempts alone decide the
answer: the first success, or else the first failure of a call, or else the first refusal.

The bodies that a search calls change the state, and policies see it.  So a path lists the state in
which the search comes to each of its contexts, and an attempt that in which its candidate was come
to: the questions are about these states.

The top statement, `invokeFrom_resolves`, says that every search that returns is of this kind.  The
evaluator that runs the bodies is left open.
-/

set_option autoImplicit false

namespace GuardedScript

/-- What became of a candidate of a search. -/
inductive Trial
  /-- The policy of its context refused to try it. -/
  | denied (reason : Failure)
  /-- The arguments do not bind to its parameters. -/
  | unfit
  /-- It was called with these bindings, and this was the answer. -/
  | called (bindings : Bindings) (outcome : Outcome Value)
  /-- An earlier call had succeeded. -/
  | passed

/-- A candidate of a search: where it was found, its place there, the state in which the search came
to it, and what became of it.  The state of a candidate that is passed over is that of the end. -/
structure Attempt where
  scope : Context
  position : Nat
  function : Function
  state : State
  trial : Trial

namespace Attempt

/-- The candidate without what became of it. -/
def candidate (attempt : Attempt) : Context × Function × Nat :=
  (attempt.scope, attempt.function, attempt.position)

/-- The value of a call that succeeded. -/
def success? (attempt : Attempt) : Option Value :=
  match attempt.trial with
  | .called _ (.success value) => some value
  | _ => none

/-- The failure of a call. -/
def failure? (attempt : Attempt) : Option Failure :=
  match attempt.trial with
  | .called _ (.failure reason) => some reason
  | _ => none

/-- The failure that a refusal to try the candidate counts as. -/
def denial? (attempt : Attempt) : Option Failure :=
  match attempt.trial with
  | .denied reason =>
    some ((Failure.accessDenied ("try function '" ++ attempt.function.signature ++ "'")).causedBy
      reason)
  | _ => none

variable (scope : Context) (position : Nat) (function : Function) (state : State)
  (bindings : Bindings) (outcome : Outcome Value)

/-- A call succeeds with the value of its outcome. -/
@[simp]
theorem success?_called :
    success? ⟨scope, position, function, state, .called bindings outcome⟩ = outcome.success? := by
  cases outcome <;> rfl

/-- A call fails with the failure of its outcome. -/
@[simp]
theorem failure?_called :
    failure? ⟨scope, position, function, state, .called bindings outcome⟩ = outcome.failure? := by
  cases outcome <;> rfl

end Attempt

/-- The functions under a key in a context, with their places, as a state has them. -/
def candidates (key : String) (entry : Context × State) : List (Context × Function × Nat) :=
  ((entry.2.store.registry entry.1.id).overloads key).zipIdx.map
    (fun candidate => (entry.1, candidate.1, candidate.2))

/-- The attempts that a success makes superfluous. -/
def passedOver (scope : Context) (functions : List Function) (position : Nat) (final : State) :
    List Attempt :=
  (functions.zipIdx position).map
    (fun candidate => ⟨scope, candidate.2, candidate.1, final, .passed⟩)

/-- The answer of a search: the first success, or else the first failure of a call, or else the
first refusal, the last of which may be the one that ended the search. -/
def answer (attempts : List Attempt) (stop : Option Failure) : Outcome Value :=
  match attempts.findSome? Attempt.success? with
  | some value => .success value
  | none =>
    match (attempts.findSome? Attempt.failure?).or
        ((attempts.findSome? Attempt.denial?).or stop) with
    | some reason => .failure reason
    | none => .empty

/-- A path from a context outward on which functions may be looked for under a key.  Each context
comes with the state in which the path enters it, which is that in which it leaves the one before.
-/
structure OpenPath (key : String) (start : Context) (entries : List (Context × State)) : Prop where
  /-- The path leads from the context outward. -/
  outward : entries.map Prod.fst <+: start.ancestry
  /-- Functions may be looked for in every context of the path. -/
  asked : ∀ entry ∈ entries, entry.1.Permits entry.2.store (.askForFunction key)
  /-- The parent may be asked in every context that the path leaves. -/
  left : ∀ step ∈ entries.zip entries.tail,
    step.1.1.Permits step.2.2.store (.askParentForFunction key)

/-- A path from a context outward on which functions may be looked for in one state. -/
def OpenPathIn (key : String) (state : State) (start : Context) (scopes : List Context) : Prop :=
  OpenPath key start (scopes.map (fun scope => (scope, state)))

section Relations

variable (perform : Evaluator) (self : Context) (key : String) (arguments : List (Argument Value))

/-- The attempts for functions of one context, the first of which has a given place, and the states
before and after them. -/
inductive Tries (scope : Context) : List Function → Nat → State → List Attempt → State → Prop
  | nil (position : Nat) (state : State) : Tries scope [] position state [] state
  | denied {function : Function} {functions : List Function} {position : Nat} {state final : State}
      {attempts : List Attempt} {reason : Failure}
      (refused : scope.decision state.store (.tryFunction key function) = .failure reason)
      (rest : Tries scope functions (position + 1)
        (state.asked scope (.tryFunction key function)) attempts final) :
      Tries scope (function :: functions) position state
        (⟨scope, position, function, state, .denied reason⟩ :: attempts) final
  | unfit {function : Function} {functions : List Function} {position : Nat} {state final : State}
      {attempts : List Attempt}
      (permitted : scope.Permits state.store (.tryFunction key function))
      (unbound : function.bind? arguments = none)
      (rest : Tries scope functions (position + 1)
        (state.asked scope (.tryFunction key function)) attempts final) :
      Tries scope (function :: functions) position state
        (⟨scope, position, function, state, .unfit⟩ :: attempts) final
  | failed {function : Function} {functions : List Function} {position : Nat}
      {state called final : State} {attempts : List Attempt} {bindings : Bindings}
      {outcome : Outcome Value}
      (permitted : scope.Permits state.store (.tryFunction key function))
      (bound : function.bind? arguments = some bindings)
      (call : invokeObject perform (some ⟨key, scope, position⟩) self function bindings
        (state.asked scope (.tryFunction key function)) = (some outcome, called))
      (unsuccessful : outcome.success? = none)
      (rest : Tries scope functions (position + 1) called attempts final) :
      Tries scope (function :: functions) position state
        (⟨scope, position, function, state, .called bindings outcome⟩ :: attempts) final
  | succeeded {function : Function} {functions : List Function} {position : Nat}
      {state final : State} {bindings : Bindings} {value : Value}
      (permitted : scope.Permits state.store (.tryFunction key function))
      (bound : function.bind? arguments = some bindings)
      (call : invokeObject perform (some ⟨key, scope, position⟩) self function bindings
        (state.asked scope (.tryFunction key function)) = (some (.success value), final)) :
      Tries scope (function :: functions) position state
        (⟨scope, position, function, state, .called bindings (.success value)⟩ ::
          passedOver scope functions (position + 1) final) final

/-- The part of a search that begins in a context: the contexts it comes to with the states in which
it does, its attempts, the refusal that ended it, and the state after it. -/
inductive Searches :
    Context → State → List (Context × State) → List Attempt → Option Failure → State → Prop
  | found {scope : Context} {state final : State} {attempts : List Attempt}
      (tries : Tries perform self key arguments scope
        ((state.store.registry scope.id).overloads key) 0 state attempts final)
      (success : ∃ attempt ∈ attempts, attempt.success? ≠ none) :
      Searches scope state [(scope, state)] attempts none final
  | outermost {frame : Frame} {state final : State} {attempts : List Attempt}
      (tries : Tries perform self key arguments (.root frame)
        ((state.store.registry frame.id).overloads key) 0 state attempts final)
      (unsuccessful : ∀ attempt ∈ attempts, attempt.success? = none) :
      Searches (.root frame) state [(.root frame, state)] attempts none final
  | kept {frame : Frame} {parent : Context} {state tried : State} {attempts : List Attempt}
      {reason : Failure}
      (tries : Tries perform self key arguments (.nested frame parent)
        ((state.store.registry frame.id).overloads key) 0 state attempts tried)
      (unsuccessful : ∀ attempt ∈ attempts, attempt.success? = none)
      (refused : (Context.nested frame parent).decision tried.store (.askParentForFunction key) =
        .failure reason) :
      Searches (.nested frame parent) state [(.nested frame parent, state)] attempts
        (some ((Failure.accessDenied ("ask parent for function '" ++ key ++ "'")).causedBy reason))
        (tried.asked (.nested frame parent) (.askParentForFunction key))
  | barred {frame : Frame} {parent : Context} {state tried : State} {attempts : List Attempt}
      {reason : Failure}
      (tries : Tries perform self key arguments (.nested frame parent)
        ((state.store.registry frame.id).overloads key) 0 state attempts tried)
      (unsuccessful : ∀ attempt ∈ attempts, attempt.success? = none)
      (permitted : (Context.nested frame parent).Permits tried.store (.askParentForFunction key))
      (refused : parent.decision tried.store (.askForFunction key) = .failure reason) :
      Searches (.nested frame parent) state [(.nested frame parent, state)] attempts
        (some ((Failure.accessDenied ("ask for function '" ++ key ++ "'")).causedBy reason))
        ((tried.asked (.nested frame parent) (.askParentForFunction key)).asked parent
          (.askForFunction key))
  | outward {frame : Frame} {parent : Context} {state tried final : State}
      {attempts further : List Attempt} {entries : List (Context × State)} {stop : Option Failure}
      (tries : Tries perform self key arguments (.nested frame parent)
        ((state.store.registry frame.id).overloads key) 0 state attempts tried)
      (unsuccessful : ∀ attempt ∈ attempts, attempt.success? = none)
      (permitted : (Context.nested frame parent).Permits tried.store (.askParentForFunction key))
      (asked : parent.Permits tried.store (.askForFunction key))
      (rest : Searches parent
        ((tried.asked (.nested frame parent) (.askParentForFunction key)).asked parent
          (.askForFunction key)) entries further stop final) :
      Searches (.nested frame parent) state ((.nested frame parent, state) :: entries)
        (attempts ++ further) stop final

/-- A whole search from a context. -/
inductive Resolves (start : Context) :
    State → List (Context × State) → List Attempt → Option Failure → State → Prop
  | refused {state : State} {reason : Failure}
      (refused : start.decision state.store (.askForFunction key) = .failure reason) :
      Resolves start state [] []
        (some ((Failure.accessDenied ("ask for function '" ++ key ++ "'")).causedBy reason))
        (state.asked start (.askForFunction key))
  | asked {state final : State} {entries : List (Context × State)} {attempts : List Attempt}
      {stop : Option Failure} (asked : start.Permits state.store (.askForFunction key))
      (search : Searches perform self key arguments start
        (state.asked start (.askForFunction key)) entries attempts stop final) :
      Resolves start state entries attempts stop final

end Relations

/-! ### What the attempts say -/

section Attempts

variable {perform : Evaluator} {self scope : Context} {key : String}
  {arguments : List (Argument Value)} {functions : List Function} {position : Nat}
  {state final : State} {attempts : List Attempt}

/-- Passing over candidates keeps them in order. -/
theorem map_candidate_passedOver :
    (passedOver scope functions position final).map Attempt.candidate =
      (functions.zipIdx position).map (fun candidate => (scope, candidate.1, candidate.2)) := by
  simp [passedOver, Attempt.candidate, Function.comp_def]

/-- Every function of the context is a candidate, in order. -/
theorem Tries.map_candidate
    (h : Tries perform self key arguments scope functions position state attempts final) :
    attempts.map Attempt.candidate =
      (functions.zipIdx position).map (fun candidate => (scope, candidate.1, candidate.2)) := by
  induction h with
  | nil => rfl
  | denied _ _ ih => simp [ih, Attempt.candidate]
  | unfit _ _ _ ih => simp [ih, Attempt.candidate]
  | failed _ _ _ _ _ ih => simp [ih, Attempt.candidate]
  | succeeded => simp [map_candidate_passedOver, Attempt.candidate]

/-- Of the attempts exactly those with bindings for the arguments are calls, as long as they may be
tried when the search comes to them and no earlier one has succeeded. -/
def Accounted (key : String) (arguments : List (Argument Value)) (attempts : List Attempt) : Prop :=
  ∀ before attempt after, attempts = before ++ attempt :: after → ∀ bindings,
    (∃ outcome, attempt.trial = .called bindings outcome) ↔
      (∀ earlier ∈ before, earlier.success? = none) ∧
        attempt.scope.Permits attempt.state.store (.tryFunction key attempt.function) ∧
        attempt.function.bind? arguments = some bindings

/-- No attempts are accounted for. -/
theorem accounted_nil : Accounted key arguments [] := by
  intro before attempt after h
  cases before <;> cases h

/-- Attempts stay accounted for behind one that is accounted for and did not succeed. -/
theorem Accounted.cons {attempt : Attempt} (rest : Accounted key arguments attempts)
    (called : ∀ bindings, (∃ outcome, attempt.trial = .called bindings outcome) ↔
      attempt.scope.Permits attempt.state.store (.tryFunction key attempt.function) ∧
        attempt.function.bind? arguments = some bindings)
    (unsuccessful : attempt.success? = none) : Accounted key arguments (attempt :: attempts) := by
  intro before other after h bindings
  cases before with
  | nil =>
    obtain ⟨rfl, rfl⟩ : attempt = other ∧ attempts = after := by simpa using h
    simpa using called bindings
  | cons first before =>
    obtain ⟨rfl, rfl⟩ : attempt = first ∧ attempts = before ++ other :: after := by simpa using h
    rw [rest before other after rfl bindings]
    simp [unsuccessful]

/-- Attempts stay accounted for behind others of which none succeeded. -/
theorem Accounted.append {further : List Attempt} (h : Accounted key arguments attempts)
    (unsuccessful : ∀ attempt ∈ attempts, attempt.success? = none)
    (rest : Accounted key arguments further) : Accounted key arguments (attempts ++ further) := by
  induction attempts with
  | nil => exact rest
  | cons attempt attempts ih =>
    have hfirst : attempt.success? = none := unsuccessful attempt (by simp)
    have htail : Accounted key arguments attempts := by
      intro before other after hsplit bindings
      rw [h (attempt :: before) other after (by rw [hsplit]; rfl) bindings]
      simp [hfirst]
    have hlater := ih htail (fun other hmem => unsuccessful other (List.mem_cons_of_mem _ hmem))
    refine hlater.cons (fun bindings => ?_) hfirst
    simpa using h [] attempt attempts rfl bindings

/-- Of the functions of one context exactly those that are due are called. -/
theorem Tries.accounted
    (h : Tries perform self key arguments scope functions position state attempts final) :
    Accounted key arguments attempts := by
  induction h with
  | nil => exact accounted_nil
  | @denied function _ _ state _ _ reason refused _ ih =>
    refine ih.cons (fun bindings => ?_) rfl
    -- a refused candidate is neither called nor due
    simpa using fun (permitted : scope.Permits state.store (.tryFunction key function)) _ =>
      permitted reason refused
  | unfit permitted unbound _ ih =>
    refine ih.cons (fun bindings => ?_) rfl
    simp [unbound]
  | failed permitted bound _ unsuccessful _ ih =>
    refine ih.cons (fun bindings => ?_) ?_
    · simp [bound, permitted]
    · simpa using unsuccessful
  | @succeeded function functions position _ final bound value permitted hbound _ =>
    intro before attempt after hsplit bindings
    cases before with
    | nil =>
      obtain ⟨rfl, -⟩ := List.cons.inj hsplit
      simp [hbound, permitted]
    | cons first before =>
      obtain ⟨rfl, hafter⟩ := List.cons.inj hsplit
      have hpassed : attempt ∈ passedOver scope functions (position + 1) final := by
        rw [hafter]
        simp
      obtain ⟨candidate, -, rfl⟩ := List.mem_map.mp hpassed
      simp [Outcome.success?]

end Attempts

/-! ### The code makes these attempts -/

section Search

variable {perform : Evaluator} {self scope : Context} {key : String}
  {arguments : List (Argument Value)} {functions : List Function} {position : Nat}
  {state final : State}

/-- The failures noted so far and those of some attempts. -/
def Refusals.after (refusals : Refusals) (attempts : List Attempt) : Refusals :=
  ⟨refusals.invoked.or (attempts.findSome? Attempt.failure?),
    refusals.denied.or (attempts.findSome? Attempt.denial?)⟩

/-- How a search stands after some attempts. -/
def Refusals.standing (refusals : Refusals) (attempts : List Attempt) : Search :=
  match attempts.findSome? Attempt.success? with
  | some value => .found value
  | none => .pending (refusals.after attempts)

/-- No attempts add nothing to the failures noted so far. -/
theorem Refusals.after_nil (refusals : Refusals) : refusals.after [] = refusals := by
  simp [Refusals.after]

/-- Failures are noted for attempts in their order, whether at once or in two parts. -/
theorem Refusals.after_append (refusals : Refusals) (attempts further : List Attempt) :
    refusals.after (attempts ++ further) = (refusals.after attempts).after further := by
  simp [Refusals.after, List.findSome?_append, Option.or_assoc]

/-- There is no first success exactly if no attempt succeeded. -/
theorem findSome?_success?_eq_none {attempts : List Attempt} :
    attempts.findSome? Attempt.success? = none ↔ ∀ attempt ∈ attempts, attempt.success? = none :=
  List.findSome?_eq_none_iff

/-- An attempt that did not succeed only adds its failure to how a search stands. -/
theorem standing_cons_of_unsuccessful {attempt : Attempt} (refusals : Refusals)
    (attempts : List Attempt) (h : attempt.success? = none) :
    refusals.standing (attempt :: attempts) = (refusals.after [attempt]).standing attempts := by
  have hafter := refusals.after_append [attempt] attempts
  simp only [List.singleton_append] at hafter
  simp only [Refusals.standing, List.findSome?_cons, h, hafter]

/-- Trying the functions of a context makes an attempt for each. -/
theorem exists_tries_of_tryOverloads {refusals : Refusals} {result : Search}
    (h : tryOverloads perform self scope key arguments functions position refusals state =
      (some result, final)) :
    ∃ attempts, Tries perform self key arguments scope functions position state attempts final ∧
      result = refusals.standing attempts := by
  induction functions generalizing position refusals state with
  | nil =>
    rw [tryOverloads, Run.pure_apply] at h
    cases h
    exact ⟨[], .nil _ _, by simp [Refusals.standing, Refusals.after_nil]⟩
  | cons function functions ih =>
    rw [tryOverloads] at h
    rcases scope.refused_or_permits state.store (.tryFunction key function) with
      ⟨reason, refused⟩ | permitted
    · rw [Context.run_guarded_of_refused _ _ _ refused] at h
      obtain ⟨attempts, htries, rfl⟩ := ih h
      refine ⟨_, .denied refused htries, ?_⟩
      rw [standing_cons_of_unsuccessful _ _ rfl]
      simp [Refusals.after, Refusals.deny, Attempt.denial?, Attempt.failure?]
    · rw [Context.run_guarded_of_permits _ _ _ permitted] at h
      cases hbind : function.bind? arguments with
      | none =>
        simp only [hbind] at h
        obtain ⟨attempts, htries, rfl⟩ := ih h
        refine ⟨_, .unfit permitted hbind htries, ?_⟩
        rw [standing_cons_of_unsuccessful _ _ rfl]
        simp [Refusals.after, Attempt.denial?, Attempt.failure?]
      | some bindings =>
        simp only [hbind, Run.bind_apply] at h
        split at h
        · next outcome called hcall =>
          cases outcome with
          | success value =>
            simp only [Run.pure_apply] at h
            cases h
            refine ⟨_, .succeeded permitted hbind hcall, ?_⟩
            simp [Refusals.standing, Outcome.success?]
          | empty =>
            obtain ⟨attempts, htries, rfl⟩ := ih h
            refine ⟨_, .failed permitted hbind hcall rfl htries, ?_⟩
            rw [standing_cons_of_unsuccessful _ _ rfl]
            simp [Refusals.after, Attempt.denial?, Outcome.failure?]
          | failure reason =>
            obtain ⟨attempts, htries, rfl⟩ := ih h
            refine ⟨_, .failed permitted hbind hcall rfl htries, ?_⟩
            rw [standing_cons_of_unsuccessful _ _ rfl]
            simp [Refusals.after, Refusals.invoke, Attempt.denial?, Outcome.failure?]
        · next called hcall => cases h

/-- The answer of a search that has noted some failures before its attempts. -/
def Refusals.conclude (refusals : Refusals) (attempts : List Attempt) (stop : Option Failure) :
    Outcome Value :=
  match attempts.findSome? Attempt.success? with
  | some value => .success value
  | none =>
    Refusals.outcome ⟨(refusals.after attempts).invoked, (refusals.after attempts).denied.or stop⟩

/-- A search that has noted nothing before its attempts has the answer that they decide. -/
theorem conclude_empty (attempts : List Attempt) (stop : Option Failure) :
    Refusals.conclude {} attempts stop = answer attempts stop := by
  unfold Refusals.conclude answer
  cases attempts.findSome? Attempt.success? with
  | some value => rfl
  | none => rfl

/-- Attempts without success only add their failures to the answer of those behind them. -/
theorem conclude_append {attempts : List Attempt} (refusals : Refusals) (further : List Attempt)
    (stop : Option Failure) (h : ∀ attempt ∈ attempts, attempt.success? = none) :
    refusals.conclude (attempts ++ further) stop =
      (refusals.after attempts).conclude further stop := by
  simp only [Refusals.conclude, List.findSome?_append, findSome?_success?_eq_none.mpr h,
    Option.none_or, Refusals.after_append]

/-- Without a success the answer is the first failure of a call, or else the first refusal. -/
theorem conclude_eq_outcome {attempts : List Attempt} (refusals : Refusals) (stop : Option Failure)
    (h : ∀ attempt ∈ attempts, attempt.success? = none) :
    refusals.conclude attempts stop =
      Refusals.outcome
        ⟨(refusals.after attempts).invoked, (refusals.after attempts).denied.or stop⟩ := by
  simp only [Refusals.conclude, findSome?_success?_eq_none.mpr h]

/-- A search that returns has succeeded in a context, or has gone on beyond it. -/
theorem search_cases {refusals : Refusals} {outcome : Outcome Value}
    (h : search perform self key arguments refusals scope state = (some outcome, final)) :
    ∃ attempts tried,
      Tries perform self key arguments scope ((state.store.registry scope.id).overloads key) 0
        state attempts tried ∧
      ((∃ value, attempts.findSome? Attempt.success? = some value ∧ outcome = .success value ∧
          final = tried) ∨
        ((∀ attempt ∈ attempts, attempt.success? = none) ∧
          searchBeyond perform self key arguments (refusals.after attempts) scope tried =
            (some outcome, final))) := by
  rw [search_eq] at h
  simp only [Run.bind_apply, Run.lift_apply, Context.overloads_apply] at h
  split at h
  · next result tried htried =>
    obtain ⟨attempts, htries, rfl⟩ := exists_tries_of_tryOverloads htried
    refine ⟨attempts, tried, htries, ?_⟩
    unfold Refusals.standing at h
    cases hsuccess : attempts.findSome? Attempt.success? with
    | some value =>
      simp only [hsuccess, Run.pure_apply] at h
      cases h
      exact .inl ⟨value, rfl, rfl, rfl⟩
    | none =>
      simp only [hsuccess] at h
      exact .inr ⟨findSome?_success?_eq_none.mp hsuccess, h⟩
  · next tried htried => cases h

/-- Searching a context and those around it makes the attempts of a search. -/
theorem exists_searches_of_search {refusals : Refusals} {outcome : Outcome Value}
    (h : search perform self key arguments refusals scope state = (some outcome, final)) :
    ∃ entries attempts stop,
      Searches perform self key arguments scope state entries attempts stop final ∧
        outcome = refusals.conclude attempts stop := by
  induction scope generalizing refusals state with
  | root frame =>
    obtain ⟨attempts, tried, htries, hend⟩ := search_cases h
    rcases hend with ⟨value, hsuccess, rfl, rfl⟩ | ⟨unsuccessful, hend⟩
    · obtain ⟨attempt, hmem, hvalue⟩ := List.exists_of_findSome?_eq_some hsuccess
      refine ⟨_, attempts, none, .found htries ⟨attempt, hmem, by simp [hvalue]⟩, ?_⟩
      simp only [Refusals.conclude, hsuccess]
    · rw [searchBeyond, Run.pure_apply] at hend
      cases hend
      refine ⟨_, attempts, none, .outermost htries unsuccessful, ?_⟩
      rw [conclude_eq_outcome refusals none unsuccessful, Option.or_none]
  | nested frame parent ih =>
    obtain ⟨attempts, tried, htries, hend⟩ := search_cases h
    rcases hend with ⟨value, hsuccess, rfl, rfl⟩ | ⟨unsuccessful, hend⟩
    · obtain ⟨attempt, hmem, hvalue⟩ := List.exists_of_findSome?_eq_some hsuccess
      refine ⟨_, attempts, none, .found htries ⟨attempt, hmem, by simp [hvalue]⟩, ?_⟩
      simp only [Refusals.conclude, hsuccess]
    · rw [searchBeyond] at hend
      rcases (Context.nested frame parent).refused_or_permits tried.store
        (.askParentForFunction key) with ⟨reason, refused⟩ | permitted
      · rw [Context.run_guarded_of_refused _ _ _ refused, Run.pure_apply] at hend
        cases hend
        refine ⟨_, attempts, _, .kept htries unsuccessful refused, ?_⟩
        rw [conclude_eq_outcome refusals _ unsuccessful]
        rfl
      · rw [Context.run_guarded_of_permits _ _ _ permitted] at hend
        let left := tried.asked (.nested frame parent) (.askParentForFunction key)
        rcases parent.refused_or_permits left.store (.askForFunction key) with
          ⟨reason, refused⟩ | asked
        · rw [Context.run_guarded_of_refused _ _ left refused, Run.pure_apply] at hend
          cases hend
          refine ⟨_, attempts, _, .barred htries unsuccessful permitted refused, ?_⟩
          rw [conclude_eq_outcome refusals _ unsuccessful]
          rfl
        · rw [Context.run_guarded_of_permits _ _ left asked] at hend
          obtain ⟨entries, further, stop, hsearch, rfl⟩ := ih hend
          refine ⟨_, attempts ++ further, stop,
            .outward htries unsuccessful permitted asked hsearch, ?_⟩
          rw [conclude_append refusals further stop unsuccessful]

end Search

/-! ### The path of a search -/

section Paths

variable {perform : Evaluator} {self scope parent : Context} {frame : Frame} {key : String}
  {arguments : List (Argument Value)} {state final : State} {attempts : List Attempt}
  {entries : List (Context × State)} {stop : Option Failure} {scopes : List Context}

/-- A context alone leads outward from itself. -/
theorem singleton_outward (scope : Context) : [scope] <+: scope.ancestry := by
  cases scope with
  | root frame => exact List.prefix_rfl
  | nested frame parent => exact ⟨parent.ancestry, rfl⟩

/-- No context at all is an open path. -/
theorem openPath_nil (key : String) (start : Context) : OpenPath key start [] where
  outward := List.nil_prefix
  asked := by simp
  left := by simp

/-- A context in which functions may be looked for is an open path by itself. -/
theorem openPath_singleton (asked : scope.Permits state.store (.askForFunction key)) :
    OpenPath key scope [(scope, state)] where
  outward := singleton_outward scope
  asked := by
    intro entry h
    rw [List.mem_singleton.mp h]
    exact asked
  left := by simp

/-- Contexts outward are open in a state if all of them permit to look for functions in it, and to
ask their parents. -/
theorem openPathIn_of_permits (outward : scopes <+: scope.ancestry)
    (asked : ∀ other ∈ scopes, other.Permits state.store (.askForFunction key))
    (left : ∀ other ∈ scopes, other.Permits state.store (.askParentForFunction key)) :
    OpenPathIn key state scope scopes where
  outward := by simpa [Function.comp_def] using outward
  asked := by
    intro entry hentry
    obtain ⟨other, hother, rfl⟩ := List.mem_map.mp hentry
    exact asked other hother
  left := by
    rintro ⟨⟨first, entered⟩, second⟩ hstep
    obtain ⟨hfirst, hsecond⟩ := List.of_mem_zip hstep
    obtain ⟨other, hother, hfirst⟩ := List.mem_map.mp hfirst
    obtain ⟨next, -, rfl⟩ := List.mem_map.mp (List.mem_of_mem_tail hsecond)
    cases hfirst
    exact left first hother

/-- A path that does not end at once begins with the context that it starts from. -/
theorem OpenPath.head {entry : Context × State} (path : OpenPath key scope (entry :: entries)) :
    entry.1 = scope := by
  have houtward := path.outward
  cases scope with
  | root frame => exact (List.cons_prefix_cons.mp houtward).1
  | nested frame parent => exact (List.cons_prefix_cons.mp houtward).1

/-- A path may begin one context further inward, if its parent may be asked there. -/
theorem OpenPath.cons {entry : Context × State}
    (permitted : (Context.nested frame parent).Permits entry.2.store (.askParentForFunction key))
    (asked : (Context.nested frame parent).Permits state.store (.askForFunction key))
    (path : OpenPath key parent (entry :: entries)) :
    OpenPath key (.nested frame parent) ((.nested frame parent, state) :: entry :: entries) where
  outward := List.cons_prefix_cons.mpr ⟨rfl, path.outward⟩
  asked := List.forall_mem_cons.mpr ⟨asked, path.asked⟩
  left := List.forall_mem_cons.mpr ⟨permitted, path.left⟩

/-- A path from a nested context has at most that context, or goes on from its parent. -/
theorem OpenPath.nested_cases (path : OpenPath key (.nested frame parent) entries) :
    entries.map Prod.fst <+: [.nested frame parent] ∨
      ∃ entered left rest, entries = (.nested frame parent, entered) :: (parent, left) :: rest ∧
        OpenPath key parent ((parent, left) :: rest) ∧
        (Context.nested frame parent).Permits left.store (.askParentForFunction key) ∧
        parent.Permits left.store (.askForFunction key) := by
  match entries, path with
  | [], _ => exact .inl List.nil_prefix
  | [(first, entered)], path =>
    obtain rfl : first = .nested frame parent := path.head
    exact .inl List.prefix_rfl
  | (first, entered) :: (second, left) :: rest, path =>
    obtain rfl : first = .nested frame parent := path.head
    have hrest : OpenPath key parent ((second, left) :: rest) :=
      ⟨(List.cons_prefix_cons.mp path.outward).2, (List.forall_mem_cons.mp path.asked).2,
        (List.forall_mem_cons.mp path.left).2⟩
    obtain rfl : second = parent := hrest.head
    exact .inr ⟨entered, left, rest, rfl, hrest, (List.forall_mem_cons.mp path.left).1,
      (List.forall_mem_cons.mp hrest.asked).1⟩

/-- A path in one state from a nested context has at most that context, or goes on from its
parent. -/
theorem OpenPathIn.nested_cases (path : OpenPathIn key state (.nested frame parent) scopes) :
    scopes <+: [.nested frame parent] ∨
      ∃ rest, scopes = .nested frame parent :: rest ∧ OpenPathIn key state parent rest ∧
        (Context.nested frame parent).Permits state.store (.askParentForFunction key) ∧
        parent.Permits state.store (.askForFunction key) := by
  rcases OpenPath.nested_cases path with
    hshort | ⟨entered, left, rest, heq, hrest, permitted, asked⟩
  · exact .inl (by simpa [Function.comp_def] using hshort)
  · match scopes, heq with
    | first :: second :: scopes, heq =>
      simp only [List.map_cons, List.cons.injEq, Prod.mk.injEq] at heq
      obtain ⟨⟨rfl, rfl⟩, ⟨rfl, rfl⟩, rfl⟩ := heq
      exact .inr ⟨_, rfl, hrest, permitted, asked⟩

/-- Where a path in one state begins functions may be looked for. -/
theorem OpenPathIn.permits_start (path : OpenPathIn key state scope scopes) (h : scopes ≠ []) :
    scope.Permits state.store (.askForFunction key) := by
  cases scopes with
  | nil => exact absurd rfl h
  | cons first rest =>
    obtain rfl : first = scope := OpenPath.head path
    exact (List.forall_mem_cons.mp path.asked).1

/-- A search comes first to the context in which it begins, in the state in which it does. -/
theorem Searches.exists_entries
    (h : Searches perform self key arguments scope state entries attempts stop final) :
    ∃ further, entries = (scope, state) :: further := by
  cases h <;> exact ⟨_, rfl⟩

/-- A search comes only to contexts in which functions may be looked for when it comes there. -/
theorem Searches.openPath
    (h : Searches perform self key arguments scope state entries attempts stop final)
    (asked : scope.Permits state.store (.askForFunction key)) : OpenPath key scope entries := by
  induction h with
  | found => exact openPath_singleton asked
  | outermost => exact openPath_singleton asked
  | kept => exact openPath_singleton asked
  | barred => exact openPath_singleton asked
  | outward _ _ permitted hparent rest ih =>
    obtain ⟨further, rfl⟩ := rest.exists_entries
    exact OpenPath.cons permitted asked (ih hparent)

/-- A search without success comes to every context that is open in the state in which it ends. -/
theorem Searches.longest
    (h : Searches perform self key arguments scope state entries attempts stop final)
    (unsuccessful : ∀ attempt ∈ attempts, attempt.success? = none)
    (path : OpenPathIn key final scope scopes) : scopes <+: entries.map Prod.fst := by
  induction h generalizing scopes with
  | found _ success =>
    obtain ⟨attempt, hmem, hsuccess⟩ := success
    exact absurd (unsuccessful attempt hmem) hsuccess
  | outermost => simpa [Function.comp_def, Context.ancestry] using path.outward
  | kept _ _ refused =>
    rcases path.nested_cases with hshort | ⟨rest, rfl, -, permitted, -⟩
    · exact hshort
    · exact absurd refused (permitted _)
  | barred _ _ _ refused =>
    rcases path.nested_cases with hshort | ⟨rest, rfl, -, -, asked⟩
    · exact hshort
    · exact absurd refused (asked _)
  | @outward frame parent _ _ _ attempts further entries _ _ _ _ _ _ ih =>
    rcases path.nested_cases with hshort | ⟨rest, rfl, hrest, -, -⟩
    · exact hshort.trans (List.cons_prefix_cons.mpr ⟨rfl, List.nil_prefix⟩)
    · have hfurther := ih (fun attempt hmem =>
        unsuccessful attempt (List.mem_append_right _ hmem)) hrest
      exact List.cons_prefix_cons.mpr ⟨rfl, hfurther⟩

/-- A search without success that no policy has ended comes to all contexts outward. -/
theorem Searches.map_fst_eq_ancestry
    (h : Searches perform self key arguments scope state entries attempts stop final)
    (unsuccessful : ∀ attempt ∈ attempts, attempt.success? = none) (unstopped : stop = none) :
    entries.map Prod.fst = scope.ancestry := by
  induction h with
  | found _ success =>
    obtain ⟨attempt, hmem, hsuccess⟩ := success
    exact absurd (unsuccessful attempt hmem) hsuccess
  | outermost => rfl
  | kept => cases unstopped
  | barred => cases unstopped
  | outward _ _ _ _ _ ih =>
    have hrest := ih (fun attempt hmem => unsuccessful attempt (List.mem_append_right _ hmem))
      unstopped
    rw [List.map_cons, hrest]
    rfl

/-- A search calls exactly the candidates that are due. -/
theorem Searches.accounted
    (h : Searches perform self key arguments scope state entries attempts stop final) :
    Accounted key arguments attempts := by
  induction h with
  | found tries => exact tries.accounted
  | outermost tries => exact tries.accounted
  | kept tries => exact tries.accounted
  | barred tries => exact tries.accounted
  | outward tries unsuccessful _ _ _ ih => exact tries.accounted.append unsuccessful ih

/-- The candidates of a search are the functions under the key in the contexts that it comes to. -/
theorem Searches.map_candidate
    (h : Searches perform self key arguments scope state entries attempts stop final) :
    attempts.map Attempt.candidate = entries.flatMap (candidates key) := by
  induction h with
  | found tries => rw [tries.map_candidate, List.flatMap_singleton]; rfl
  | outermost tries => rw [tries.map_candidate, List.flatMap_singleton]; rfl
  | kept tries => rw [tries.map_candidate, List.flatMap_singleton]; rfl
  | barred tries => rw [tries.map_candidate, List.flatMap_singleton]; rfl
  | outward tries _ _ _ _ ih =>
    rw [List.map_append, tries.map_candidate, ih, List.flatMap_cons]
    rfl

/-- Attempts are made in the contexts whose functions they are for. -/
theorem scope_mem_of_map_candidate
    (h : attempts.map Attempt.candidate = entries.flatMap (candidates key)) {attempt : Attempt}
    (hattempt : attempt ∈ attempts) : attempt.scope ∈ entries.map Prod.fst := by
  have hcandidate : attempt.candidate ∈ entries.flatMap (candidates key) := by
    rw [← h]
    exact List.mem_map_of_mem hattempt
  obtain ⟨entry, hentry, hmem⟩ := List.mem_flatMap.mp hcandidate
  obtain ⟨found, -, hfound⟩ := List.mem_map.mp hmem
  exact List.mem_map.mpr ⟨entry, hentry, congrArg Prod.fst hfound⟩

end Paths

/-- A call by name that returns has searched the longest open path, or a part of it that ends with a
success.  Its candidates are the functions under the key along the path, and a candidate was called,
with the bindings of the arguments and on behalf of the given context, exactly if it may be tried,
the arguments bind and no earlier call had succeeded.  The attempts decide the answer.  What
policies permit is meant of the states in which they are asked, and what would come after the path
of the state in which the search ends. -/
theorem invokeFrom_resolves (perform : Evaluator) (start self : Context) (name : String)
    (arguments : List (Argument Value)) (state final : State) (outcome : Outcome Value)
    (h : invokeFrom perform start self name arguments state = (some outcome, final)) :
    ∃ entries attempts stop,
      Resolves perform self (Text.key name) arguments start state entries attempts stop final ∧
      OpenPath (Text.key name) start entries ∧
      ((∀ attempt ∈ attempts, attempt.success? = none) → ∀ scopes,
        OpenPathIn (Text.key name) final start scopes → scopes <+: entries.map Prod.fst) ∧
      attempts.map Attempt.candidate = entries.flatMap (candidates (Text.key name)) ∧
      Accounted (Text.key name) arguments attempts ∧
      outcome = answer attempts stop := by
  unfold invokeFrom at h
  rcases start.refused_or_permits state.store (.askForFunction (Text.key name)) with
    ⟨reason, refused⟩ | asked
  · rw [Context.run_guarded_of_refused _ _ _ refused, Run.pure_apply] at h
    cases h
    refine ⟨[], [], _, .refused refused, openPath_nil _ start, ?_, rfl, accounted_nil, rfl⟩
    intro _ scopes path
    cases scopes with
    | nil => exact List.nil_prefix
    | cons first rest => exact absurd refused (path.permits_start (List.cons_ne_nil _ _) reason)
  · rw [Context.run_guarded_of_permits _ _ _ asked] at h
    obtain ⟨entries, attempts, stop, hsearch, rfl⟩ := exists_searches_of_search h
    exact ⟨entries, attempts, stop, .asked asked hsearch, hsearch.openPath asked,
      fun unsuccessful scopes path => hsearch.longest unsuccessful path, hsearch.map_candidate,
      hsearch.accounted, conclude_empty attempts stop⟩

/-- A block below a global context.  Both have a function `f`: the inner one fails, the outer one
answers. -/
def shadowed : State where
  store := ⟨#[
    ⟨∅, .ofList [("f", [⟨0, "f", [], false, .native (fun _ => .done (.success (.int 7)))⟩])]⟩,
    ⟨∅, .ofList [("f", [⟨1, "f", [], false,
      .native (fun _ => .done (.failure (.accessDenied "answer")))⟩])]⟩]⟩

/-- The context of that block. -/
def shadowingBlock : Context :=
  .nested ⟨1, .scope defaultMarker, .permissive, {}⟩ (.root ⟨0, .global, .permissive, {}⟩)

/-- The inner function is called first, and its failure does not count, since the outer one
succeeds. -/
theorem invokeFrom_resolves_shadowed :
    ∃ entries attempts stop final,
      Resolves (perform 2) shadowingBlock (Text.key " f ") [] shadowingBlock shadowed entries
        attempts stop final ∧
      Accounted (Text.key " f ") [] attempts ∧
      answer attempts stop = .success (.int 7) := by
  have hanswer : (invokeFrom (perform 2) shadowingBlock shadowingBlock " f " [] shadowed).1 =
      some (.success (.int 7)) := by
    simp only [invokeFrom, shadowingBlock, search_eq, searchBeyond]
    rfl
  obtain ⟨entries, attempts, stop, hresolves, -, -, -, haccounted, houtcome⟩ :=
    invokeFrom_resolves (perform 2) shadowingBlock shadowingBlock " f " [] shadowed
      (invokeFrom (perform 2) shadowingBlock shadowingBlock " f " [] shadowed).2
      (.success (.int 7)) (Prod.ext hanswer rfl)
  exact ⟨entries, attempts, stop, _, hresolves, haccounted, houtcome.symm⟩

end GuardedScript

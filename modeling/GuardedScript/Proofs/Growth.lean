import GuardedScript.Proofs.Mediation

/-!
# Functions are only added

No operation takes a function away again: whatever runs, each list of functions under a key stays a
beginning of what it becomes.  So a search that comes to a context finds there all that the context
had when the search began, at the places where it was, although the calls on the way may have
registered more (`discoverable_of_outward`).
-/

set_option autoImplicit false

namespace GuardedScript

/-! ### Runs -/

/-- Whatever is asked of whatever context, functions are only added. -/
theorem Request.serve_grown (fuel : Nat) (context : Context) (request : Request) (state : State) :
    state.Grown (request.serve (perform fuel) context state).2 :=
  (request.serve_shows fuel context state).grown

/-- A call only adds functions, whatever its body does. -/
theorem invokeObject_grown (fuel : Nat) (lookup : Option Lookup) (caller : Context)
    (function : Function) (bindings : Bindings) (state : State) :
    state.Grown (invokeObject (perform fuel) lookup caller function bindings state).2 := by
  have hcalled : state.Grown (state.called lookup caller function) := .extend state
  rcases caller.refused_or_underived_or_granted state.store function with
    ⟨reason, refused⟩ | ⟨permits, reason, underived⟩ | ⟨permits, derived⟩
  · rw [invokeObject_of_refused _ _ _ state refused]
    exact .refl state
  · rw [invokeObject_of_underived _ _ _ state permits underived]
    exact .refl state
  · rw [invokeObject_of_permits _ _ _ state permits derived]
    rcases (mediated_perform fuel).1 (caller.calleeAt state.store function) function bindings
      (state.called lookup caller function) with hsame | hran
    · rw [hsame]
      exact hcalled
    · exact hcalled.trans hran.grown

/-! ### Searches -/

section Search

variable {fuel : Nat} {self scope start : Context} {key : String}
  {arguments : List (Argument Value)} {functions : List Function} {position : Nat}
  {state final : State} {attempts : List Attempt} {entries : List (Context × State)}
  {stop : Option Failure}

/-- Trying functions only adds functions. -/
theorem Tries.grown
    (h : Tries (perform fuel) self key arguments scope functions position state attempts final) :
    state.Grown final := by
  have hcall : ∀ {lookup : Option Lookup} {function : Function} {bindings : Bindings}
      {state called : State} {outcome : Outcome Value},
      invokeObject (perform fuel) lookup self function bindings
        (state.asked scope (.tryFunction key function)) = (some outcome, called) →
      state.Grown called := by
    intro lookup function bindings state called outcome hcalled
    have hgrown := invokeObject_grown fuel lookup self function bindings
      (state.asked scope (.tryFunction key function))
    rw [hcalled] at hgrown
    exact (State.Grown.log state _).trans hgrown
  induction h with
  | nil position state => exact .refl state
  | @denied _ _ _ state _ _ _ _ _ ih => exact (State.Grown.log state _).trans ih
  | @unfit _ _ _ state _ _ _ _ _ ih => exact (State.Grown.log state _).trans ih
  | failed _ _ call _ _ ih => exact (hcall call).trans ih
  | succeeded _ _ call => exact hcall call

/-- A search finds all functions that the contexts on its way had when it began. -/
theorem Searches.grown
    (h : Searches (perform fuel) self key arguments scope state entries attempts stop final) :
    ∀ entry ∈ entries, state.Grown entry.2 := by
  induction h with
  | found _ _ => exact List.forall_mem_singleton.mpr (.refl _)
  | outermost _ _ => exact List.forall_mem_singleton.mpr (.refl _)
  | kept _ _ _ => exact List.forall_mem_singleton.mpr (.refl _)
  | barred _ _ _ _ => exact List.forall_mem_singleton.mpr (.refl _)
  | outward tries _ _ _ _ ih =>
    refine List.forall_mem_cons.mpr ⟨.refl _, fun entry hentry => ?_⟩
    have hasked := (State.Grown.log _ _).trans ((State.Grown.log _ _).trans (ih entry hentry))
    exact tries.grown.trans hasked

/-- A function behind others that a context has under the key is a candidate at its place. -/
theorem candidate_mem_candidates {earlier : List Function} {function : Function}
    {entry : Context × State}
    (h : earlier ++ [function] <+: (entry.2.store.registry entry.1.id).overloads key) :
    (entry.1, function, earlier.length) ∈ candidates key entry := by
  obtain ⟨later, hlater⟩ := h
  have hplace : ((entry.2.store.registry entry.1.id).overloads key)[earlier.length]? =
      some function := by
    rw [← hlater]
    simp
  exact List.mem_map.mpr ⟨(function, earlier.length), List.mem_zipIdx_iff_getElem?.mpr hplace, rfl⟩

/-- A policy has ended a search before it came to the last context of a way outward, so that the way
is closed in the state in which the search ended. -/
structure Barred (key : String) (start : Context) (inner : List Context) (scope : Context)
    (entries : List (Context × State)) (stop : Option Failure) (final : State) : Prop where
  refused : stop ≠ none
  short : entries.map Prod.fst <+: inner
  closed : ¬ OpenPathIn key final start (inner ++ [scope])

/-- A search without success that did not come to a context was ended by a policy before. -/
theorem Searches.barred_of_short {inner : List Context}
    (h : Searches (perform fuel) self key arguments start state entries attempts stop final)
    (outward : inner ++ [scope] <+: start.ancestry)
    (unsuccessful : ∀ attempt ∈ attempts, attempt.success? = none)
    (short : entries.map Prod.fst <+: inner) : Barred key start inner scope entries stop final where
  refused := by
    intro unstopped
    have hall := h.map_fst_eq_ancestry unsuccessful unstopped
    rw [hall] at short
    have hlength := (outward.trans short).length_le
    rw [List.length_append, List.length_singleton] at hlength
    omega
  short := short
  closed := by
    intro path
    have hlength := ((h.longest unsuccessful path).trans short).length_le
    rw [List.length_append, List.length_singleton] at hlength
    omega

/-- What a context has under the key when a search begins is a candidate of the search, unless a
call has succeeded further inward or a policy has ended the search there. -/
theorem Searches.candidate_or_success {inner : List Context} {earlier : List Function}
    {function : Function}
    (h : Searches (perform fuel) self key arguments start state entries attempts stop final)
    (outward : inner ++ [scope] <+: start.ancestry)
    (asked : start.Permits state.store (.askForFunction key))
    (hfunction : earlier ++ [function] <+: (state.store.registry scope.id).overloads key) :
    (∃ attempt ∈ attempts, attempt.candidate = (scope, function, earlier.length)) ∨
      (∃ attempt ∈ attempts, attempt.success? ≠ none ∧ attempt.scope ∈ inner) ∨
      Barred key start inner scope entries stop final := by
  by_cases hreached : inner ++ [scope] <+: entries.map Prod.fst
  · have hscope : scope ∈ entries.map Prod.fst :=
      hreached.subset (List.mem_append_right _ List.mem_cons_self)
    obtain ⟨entry, hentry, rfl⟩ := List.mem_map.mp hscope
    have hkept := hfunction.trans (h.grown entry hentry entry.1.id key)
    have hcandidate :
        (entry.1, function, earlier.length) ∈ attempts.map Attempt.candidate := by
      rw [h.map_candidate]
      exact List.mem_flatMap.mpr ⟨entry, hentry, candidate_mem_candidates hkept⟩
    exact .inl (List.mem_map.mp hcandidate)
  · -- the search ended before it came to the context
    have hshort : entries.map Prod.fst <+: inner := by
      rcases List.prefix_or_prefix_of_prefix outward (h.openPath asked).outward with
        hlong | hshort
      · exact absurd hlong hreached
      · rcases List.prefix_concat_iff.mp hshort with heq | hinner
        · exact absurd (heq ▸ List.prefix_rfl) hreached
        · exact hinner
    by_cases hsuccess : ∃ attempt ∈ attempts, attempt.success? ≠ none
    · obtain ⟨attempt, hattempt, hvalue⟩ := hsuccess
      have hscope := scope_mem_of_map_candidate h.map_candidate hattempt
      exact .inr (.inl ⟨attempt, hattempt, hvalue, hshort.subset hscope⟩)
    · have unsuccessful : ∀ attempt ∈ attempts, attempt.success? = none :=
        fun attempt hmem => Classical.not_not.mp (fun hvalue => hsuccess ⟨attempt, hmem, hvalue⟩)
      exact .inr (.inr (h.barred_of_short outward unsuccessful hshort))

end Search

/-! ### What searches come to -/

/-- From a context one finds a function that another one has at a place: whatever spelling of the
name is looked for and on whose behalf, the function is a candidate, unless a call has succeeded in
a context further inward or a policy has ended the search there. -/
def Discoverable (key : String) (start : Context) (inner : List Context) (scope : Context)
    (function : Function) (position : Nat) (state : State) : Prop :=
  ∀ (fuel : Nat) (self : Context) (spelling : String) (arguments : List (Argument Value))
    (outcome : Outcome Value) (final : State), Text.key spelling = key →
    invokeFrom (perform fuel) start self spelling arguments state = (some outcome, final) →
    ∃ entries attempts stop,
      Resolves (perform fuel) self key arguments start state entries attempts stop final ∧
        ((∃ attempt ∈ attempts, attempt.candidate = (scope, function, position)) ∨
          (∃ attempt ∈ attempts, attempt.success? ≠ none ∧ attempt.scope ∈ inner) ∨
          Barred key start inner scope entries stop final)

/-- What a context further out has can be found from the contexts inside of it. -/
theorem discoverable_of_outward {key : String} {start scope : Context} {inner : List Context}
    {earlier : List Function} {function : Function} {state : State}
    (outward : inner ++ [scope] <+: start.ancestry)
    (hfunction : earlier ++ [function] <+: (state.store.registry scope.id).overloads key) :
    Discoverable key start inner scope function earlier.length state := by
  intro fuel self spelling arguments outcome final hkey hinvoke
  subst hkey
  rw [invokeFrom] at hinvoke
  rcases start.refused_or_permits state.store (.askForFunction (Text.key spelling)) with
    ⟨reason, refused⟩ | asked
  · rw [Context.run_guarded_of_refused _ _ _ refused] at hinvoke
    cases hinvoke
    refine ⟨[], [], _, .refused refused,
      .inr (.inr ⟨Option.some_ne_none _, List.nil_prefix, ?_⟩)⟩
    intro path
    exact path.permits_start (by simp) reason refused
  · rw [Context.run_guarded_of_permits _ _ _ asked] at hinvoke
    obtain ⟨entries, attempts, stop, hsearch, -⟩ := exists_searches_of_search hinvoke
    have hasked : earlier ++ [function] <+:
        ((state.asked start (.askForFunction (Text.key spelling))).store.registry
          scope.id).overloads (Text.key spelling) := hfunction
    exact ⟨entries, attempts, stop, .asked asked hsearch,
      hsearch.candidate_or_success outward asked hasked⟩

end GuardedScript

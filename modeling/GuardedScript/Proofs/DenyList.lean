import GuardedScript.Proofs.Agreement
import GuardedScript.Proofs.Resolution

/-!
# Denied functions

A list of denied names is compared with keys as they stand.  All searches, those for members,
operators and conversions included, present the key of a name, and all contexts of a session inherit
the list.  So a denied name is refused wherever it is looked for, before any function is tried, and
no other name is refused by the list (`DenyRule`).  Moreover nothing that runs under the list can
tell which functions are registered under denied keys where it started and further out, if the
policies further out do not tell (`denying_confines`).
-/

set_option autoImplicit false

namespace GuardedScript

/-- The key for which a check asks whether functions may be looked for or tried. -/
def Check.sought? : Check → Option String
  | .askForFunction key => some key
  | .askParentForFunction key => some key
  | .tryFunction key _ => some key
  | _ => none

/-- The keys of some names. -/
def Denied (names : List String) (key : String) : Prop :=
  key ∈ names.map Text.key

/-- A list derives no other policy. -/
theorem persists_denying (names : List String) : (Policy.denying names).Persists := by
  intro site function
  simp only [Policy.denying, Policy.derive]

/-! ### What the list refuses -/

section Decisions

variable {names : List String} {context : Context}

/-- The list refuses what it denies. -/
theorem denialDecision_of_denied {key : String} (denied : Denied names key) :
    Policy.denialDecision (names.map Text.key) key =
      .failure (.accessDenied ("function '" ++ key ++ "' is not available")) := by
  unfold Policy.denialDecision Policy.denies
  rw [if_pos (List.contains_iff_mem.mpr denied)]

/-- The list has no opinion on other keys. -/
theorem denialDecision_of_not_denied {key : String} (h : ¬ Denied names key) :
    Policy.denialDecision (names.map Text.key) key = .empty := by
  unfold Policy.denialDecision Policy.denies
  have hcontains : ¬ (names.map Text.key).contains key = true := by
    intro hmem
    exact h (List.contains_iff_mem.mp hmem)
  rw [if_neg hcontains]

/-- A context under the list refuses to look for what is denied. -/
theorem decision_of_denied (policy : context.policy = .denying names) {key : String}
    (denied : Denied names key) (store : Store) :
    context.decision store (.askForFunction key) =
      .failure (.accessDenied ("function '" ++ key ++ "' is not available")) := by
  rw [← denialDecision_of_denied denied]
  simp only [Context.decision, policy, Policy.denying, Policy.answer]

/-- The list has an opinion only on checks for denied keys. -/
theorem decision_of_not_denied (policy : context.policy = .denying names) {check : Check}
    (h : ∀ key, check.sought? = some key → ¬ Denied names key) (store : Store) :
    context.decision store check = .empty := by
  simp only [Context.decision, policy, Policy.denying]
  cases check with
  | askForFunction key => exact denialDecision_of_not_denied (h key rfl)
  | tryFunction key function => exact denialDecision_of_not_denied (h key rfl)
  | _ => simp only [Policy.answer]

/-- A context under the list permits all that is not about denied keys. -/
theorem permits_of_not_denied (policy : context.policy = .denying names) {check : Check}
    (h : ∀ key, check.sought? = some key → ¬ Denied names key) (store : Store) :
    context.Permits store check := by
  intro reason hrefused
  rw [decision_of_not_denied policy h] at hrefused
  cases hrefused

end Decisions

/-! ### What this means for searches -/

/-- What a list of denied names means for the names that are looked for from a context. -/
structure DenyRule (names : List String) (context : Context) : Prop where
  /-- A denied name is refused at once. -/
  refuses : ∀ perform self name arguments state, Denied names (Text.key name) →
    ∃ reason, reason.code = .accessDenied ∧
      invokeFrom perform context self name arguments state =
        (some (.failure reason), state.asked context (.askForFunction (Text.key name)))
  /-- On all else there is no opinion. -/
  silent : ∀ check : Check, (∀ key, check.sought? = some key → ¬ Denied names key) →
    ∀ store, context.decision store check = .empty
  /-- The search for another name comes to all contexts under the list, unless it succeeds before,
  and calls the functions there to whose parameters the arguments bind. -/
  admits : ∀ perform self name arguments state outcome final, ¬ Denied names (Text.key name) →
    invokeFrom perform context self name arguments state = (some outcome, final) →
    ∃ entries attempts stop,
      Resolves perform self (Text.key name) arguments context state entries attempts stop final ∧
      outcome = answer attempts stop ∧
      attempts.map Attempt.candidate = entries.flatMap (candidates (Text.key name)) ∧
      ((∀ attempt ∈ attempts, attempt.success? = none) →
        ∀ scopes, scopes <+: context.ancestry →
          (∀ scope ∈ scopes, scope.policy = .denying names) → scopes <+: entries.map Prod.fst) ∧
      ∀ before attempt after, attempts = before ++ attempt :: after →
        attempt.scope.policy = .denying names → ∀ bindings,
          (∃ outcome, attempt.trial = .called bindings outcome) ↔
            (∀ earlier ∈ before, earlier.success? = none) ∧
              attempt.function.bind? arguments = some bindings

section Rule

variable {names : List String} {context : Context} (policy : context.policy = .denying names)

include policy

/-- A call of a denied name is refused at once. -/
theorem invokeFrom_of_denied (perform : Evaluator) (self : Context) {name : String}
    (arguments : List (Argument Value)) (state : State) (denied : Denied names (Text.key name)) :
    ∃ reason, reason.code = .accessDenied ∧
      invokeFrom perform context self name arguments state =
        (some (.failure reason), state.asked context (.askForFunction (Text.key name))) := by
  have hrefused := decision_of_denied policy denied state.store
  refine ⟨_, ?_, Context.run_guarded_of_refused _ _ _ hrefused⟩
  rfl

/-- A context under the list treats all names by it. -/
theorem denyRule_of_policy : DenyRule names context where
  refuses := fun perform self _ arguments state denied =>
    invokeFrom_of_denied policy perform self arguments state denied
  silent := fun _ h => decision_of_not_denied policy h
  admits := by
    intro perform self name arguments state outcome final hname h
    -- under the list a check for the key of the name is never refused
    have hpermits : ∀ scope : Context, scope.policy = .denying names → ∀ check : Check,
        check.sought? = some (Text.key name) → ∀ store, scope.Permits store check := by
      intro scope hscope check hcheck
      refine permits_of_not_denied hscope ?_
      intro key hkey
      rw [hcheck] at hkey
      cases hkey
      exact hname
    have hasked := hpermits context policy (.askForFunction (Text.key name)) rfl state.store
    unfold invokeFrom at h
    rw [Context.run_guarded_of_permits _ _ _ hasked] at h
    obtain ⟨entries, attempts, stop, hsearch, rfl⟩ := exists_searches_of_search h
    refine ⟨entries, attempts, stop, .asked hasked hsearch, conclude_empty attempts stop,
      hsearch.map_candidate, ?_, ?_⟩
    · intro unsuccessful scopes houtward hscopes
      refine hsearch.longest unsuccessful (openPathIn_of_permits houtward ?_ ?_)
      · intro scope hmem
        exact hpermits scope (hscopes scope hmem) _ rfl final.store
      · intro scope hmem
        exact hpermits scope (hscopes scope hmem) _ rfl final.store
    · intro before attempt after hattempts hscope bindings
      have haccounted := hsearch.accounted before attempt after hattempts bindings
      have htry := hpermits attempt.scope hscope (.tryFunction (Text.key name) attempt.function)
        rfl attempt.state.store
      simpa only [htry, true_and] using haccounted

end Rule

/-! ### What stays hidden -/

/-- Hides the functions under denied keys in a context and around it. -/
def Veil.denied (context : Context) (names : List String) : Veil where
  locals _ _ := False
  functions id key := Denied names key ∧ ∃ outer ∈ context.ancestry, outer.id = id

/-- No context under the list looks for the functions that are hidden. -/
theorem denied_confines (start : Context) (names : List String) :
    (Veil.denied start names).Confines 0 (fun context => context.policy = .denying names ∧
      context.Ignores (State.Alike (.denied start names))) where
  inherited := (inherited_policy (persists_denying names) 0).and (inherited_ignores _ 0)
  ignores := And.right
  reads := fun hosts _ => agrees_get_of_visible (alike_likeness _) hosts.2
    (fun _ _ _ _ alike => alike.locals_eq id)
  searches := by
    rintro context ⟨policy, -⟩ key store asked id ⟨denied, -⟩
    exact asked _ (decision_of_denied policy denied store)

/-- Lists of denied names confine.  In a session that starts in a context under a list, the list
holds in all contexts as `DenyRule` says.  And if two states differ only in the functions under
denied keys in this context and around it, and the policies around it do not look at these, then
every request in the context has the same outcome in both, leaves the same events, those of the
bodies that run among them, and ends in states that again differ only there. -/
theorem denying_confines {start : Context} {names : List String}
    (policy : start.policy = .denying names) :
    (∀ state events final, Session start state events final →
      ∀ context, Reached start events context →
        context.policy = .denying names ∧ DenyRule names context) ∧
      (start.Ignores (State.Alike (.denied start names)) →
      ∀ left right : State, left.Alike (.denied start names) right →
      ∀ (fuel : Nat) (request : Request),
        (request.serve (perform fuel) start left).1 =
          (request.serve (perform fuel) start right).1 ∧
        (request.serve (perform fuel) start left).2.Alike (.denied start names)
          (request.serve (perform fuel) start right).2 ∧
        ∃ events,
          (request.serve (perform fuel) start left).2.trace = events ++ left.trace ∧
          (request.serve (perform fuel) start right).2.trace = events ++ right.trace) := by
  constructor
  · intro state events final session context reached
    have hpolicy : context.policy = .denying names :=
      session.reached (inherited_policy (persists_denying names) 0) policy reached
    exact ⟨hpolicy, denyRule_of_policy hpolicy⟩
  · intro ignores left right alike fuel request
    exact (denied_confines start names).serve fuel ⟨policy, ignores⟩ request (Nat.zero_le _) alike

/-- A root that denies a function. -/
def denyingRoot : Context :=
  .root ⟨0, .global, .denying [" run  shell "], {}⟩

/-- A function `f` that calls the denied one. -/
def unarmed : State where
  store := ⟨#[⟨∅, (∅ : Table _).insert "f"
    [⟨0, "f", [], false, .script ⟨defaultMarker, [.evaluate (.call "run shell" [])]⟩⟩]⟩]⟩

/-- The same with the denied function in its place. -/
def armed : State :=
  unarmed.update 0 (fun registry => registry.addFunction "run_shell"
    ⟨1, "run shell", [], false, .native (fun _ => .done (.success (.int 1)))⟩)

/-- The state after a call of the first function. -/
def armedCalled : State :=
  Move.result 20 denyingRoot armed (.serve (.evaluate (.call "f" [])))

/-- The function is called, but not the one that it calls, with a spelling of its own. -/
theorem denying_confines_shell :
    let request := Request.evaluate (.call "f" [])
    denyingRoot.policy = .denying [" run  shell "] ∧
      Session denyingRoot armed armedCalled.trace armedCalled ∧
      denyingRoot.Ignores (State.Alike (.denied denyingRoot [" run  shell "])) ∧
      unarmed.Alike (.denied denyingRoot [" run  shell "]) armed ∧
      (armedCalled.trace.filterMap Event.created?).map Context.depth = [1] ∧
      ((request.serve (perform 20) denyingRoot armed).1.bind Outcome.failure?).map
        Failure.code = some .accessDenied ∧
      (∀ context, Reached denyingRoot armedCalled.trace context →
        context.policy = .denying [" run  shell "] ∧ DenyRule [" run  shell "] context) ∧
      (request.serve (perform 20) denyingRoot unarmed).1 =
        (request.serve (perform 20) denyingRoot armed).1 ∧
      (request.serve (perform 20) denyingRoot unarmed).2.Alike
        (.denied denyingRoot [" run  shell "]) (request.serve (perform 20) denyingRoot armed).2 ∧
      ∃ events,
        (request.serve (perform 20) denyingRoot unarmed).2.trace = events ++ unarmed.trace ∧
        (request.serve (perform 20) denyingRoot armed).2.trace = events ++ armed.trace := by
  intro request
  have policy : denyingRoot.policy = .denying [" run  shell "] := rfl
  have session : Session denyingRoot armed armedCalled.trace armedCalled :=
    Session.single 20 (.serve request) (List.append_nil _).symm
  have ignores : denyingRoot.Ignores (State.Alike (.denied denyingRoot [" run  shell "])) :=
    List.forall_mem_singleton.mpr (.denyList _)
  have denied : Denied [" run  shell "] "run_shell" := by
    unfold Denied
    decide
  have hidden : (Veil.denied denyingRoot [" run  shell "]).functions 0 "run_shell" :=
    ⟨denied, denyingRoot, List.mem_singleton.mpr rfl, rfl⟩
  have alike : unarmed.Alike (.denied denyingRoot [" run  shell "]) armed :=
    State.alike_update (fun registry => registry.alike_addFunction hidden _) unarmed
  obtain ⟨hrule, hserve⟩ := denying_confines policy
  exact ⟨policy, session, ignores, alike, by decide +kernel, by decide +kernel,
    hrule _ _ _ session, hserve ignores _ _ alike 20 request⟩

end GuardedScript

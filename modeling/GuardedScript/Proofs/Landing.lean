import GuardedScript.Proofs.Sealing

/-!
# Where writes land

A global write is offered to the root first and then to one context after the other inward, until a
policy does not refuse.  There the variable is bound, and on the way back the contexts inside lose
their own bindings of it.  So the write lands in the outermost context that admits it and changes
nothing else; if no context does, it fails and changes nothing (`Context.set_global_landing`).

What a policy is asked includes how the attempt of the parent ended.  As long as every context
declines this is known beforehand (`Context.priorAttempt`), so that the outermost context that
admits a write can be told from the policies alone.
-/

set_option autoImplicit false

namespace GuardedScript

/-! ### Bindings of one variable -/

/-- Hides a variable in some contexts. -/
def Veil.binding (key : String) (scopes : List Context) : Veil where
  locals id name := name = key ∧ ∃ scope ∈ scopes, scope.id = id
  functions _ _ := False

/-- The variable is hidden in each of the contexts. -/
theorem Veil.binding_of_mem {key : String} {scopes : List Context} {scope : Context}
    (h : scope ∈ scopes) : (Veil.binding key scopes).locals scope.id key :=
  ⟨rfl, scope, h, rfl⟩

/-- States that differ in the bindings of fewer contexts differ in those of more. -/
theorem State.Alike.binding_mono {first second : State} {key : String}
    {scopes larger : List Context} (h : first.Alike (.binding key scopes) second)
    (subset : ∀ scope ∈ scopes, scope ∈ larger) : first.Alike (.binding key larger) second := by
  refine ⟨h.size, h.nextFunction, fun id => ⟨?_, (h.registries id).functions⟩⟩
  intro name visible
  refine (h.registries id).locals name ?_
  rintro ⟨hname, scope, hscope, hid⟩
  exact visible ⟨hname, scope, subset scope hscope, hid⟩

namespace Context

section Landing

variable (key : String) (value : Value) (store : Store)

/-! ### Global writes -/

/-- What a global write comes to in the context itself, after the attempt of its parent. -/
def verdict (attempt : Option (Outcome Unit)) (context : Context) : Outcome Unit :=
  match context.decision store (.setVariable key true value attempt) with
  | .failure denial => .failure ((Failure.failedToSetVariable key).causedBy (denial.after attempt))
  | _ => .success ()

/-- The attempt that comes before a global write in the context itself, if all contexts around it
decline. -/
def priorAttempt : Context → Option (Outcome Unit)
  | root _ => none
  | nested _ parent => some (parent.verdict key value store (priorAttempt parent))

/-- What the policy of the context is asked about a global write that has come to it. -/
def question (context : Context) : Check :=
  .setVariable key true value (context.priorAttempt key value store)

/-- The questions about a global write that has come to the context, latest first. -/
def questions (context : Context) : List Event :=
  context.ancestry.map (fun scope =>
    .checked scope (scope.question key value store)
      (scope.decision store (scope.question key value store)))

/-- The policy of the context refuses a global write that has come to it. -/
def Declines (context : Context) : Prop :=
  ∃ reason, context.decision store (context.question key value store) = .failure reason

/-- The context is the outermost one whose policy does not refuse a global write. -/
structure Admits (landing : Context) : Prop where
  outer : ∀ scope ∈ landing.outer, scope.Declines key value store
  permits : landing.Permits store (landing.question key value store)

/-- The variable is bound in one context and in none of those inside of it, and nothing else has
changed. -/
structure Landed (inner : List Context) (landing : Context) (state final : State) : Prop where
  bound : (final.store.registry landing.id).locals.get? key = some value
  cleared : ∀ scope ∈ inner, (final.store.registry scope.id).locals.get? key = none
  alike : state.Alike (.binding key (landing :: inner)) final

variable {key value store} {context landing : Context} {inner : List Context} {state final : State}

/-- The questions to a context come after those to its parent. -/
theorem questions_nested (frame : Frame) (parent : Context) :
    (nested frame parent).questions key value store =
      .checked (nested frame parent) ((nested frame parent).question key value store)
        ((nested frame parent).decision store ((nested frame parent).question key value store)) ::
        parent.questions key value store := rfl

/-- A global write lands somewhere, or all contexts decline it. -/
theorem admits_or_declines (key : String) (value : Value) (store : Store) (context : Context) :
    (∃ (inner : List Context) (landing : Context),
      context.ancestry = inner ++ landing.ancestry ∧ landing.Admits key value store) ∨
      ∀ scope ∈ context.ancestry, scope.Declines key value store := by
  induction context with
  | root frame =>
    rcases (root frame).refused_or_permits store ((root frame).question key value store) with
      declines | permits
    · exact .inr (List.forall_mem_singleton.mpr declines)
    · exact .inl ⟨[], root frame, rfl, fun _ hmem => absurd hmem List.not_mem_nil, permits⟩
  | nested frame parent ih =>
    rcases ih with ⟨inner, landing, chain, admits⟩ | declined
    · exact .inl ⟨nested frame parent :: inner, landing, congrArg _ chain, admits⟩
    · rcases (nested frame parent).refused_or_permits store
        ((nested frame parent).question key value store) with declines | permits
      · exact .inr (List.forall_mem_cons.mpr ⟨declines, declined⟩)
      · exact .inl ⟨[], nested frame parent, rfl, declined, permits⟩

/-! ### Writes in the context itself -/

section Write

variable {global : Bool} {attempt : Option (Outcome Unit)}

/-- A write that is refused does nothing but ask. -/
theorem write_of_refused {denial : Failure}
    (h : context.decision state.store (.setVariable key global value attempt) = .failure denial) :
    context.write key global value attempt state =
      (.failure ((Failure.failedToSetVariable key).causedBy (denial.after attempt)),
        state.asked context (.setVariable key global value attempt)) :=
  guarded_of_refused _ _ state h

/-- A write that is permitted binds the variable in the context itself. -/
theorem write_of_permits (h : context.Permits state.store (.setVariable key global value attempt)) :
    context.write key global value attempt state =
      (.success (), (state.asked context (.setVariable key global value attempt)).update context.id
        (fun registry => registry.setVariable key value)) :=
  guarded_of_permits _ _ state h

/-- A write that is not global stays in the context itself. -/
theorem set_local (context : Context) :
    context.set key false value = context.write key false value none := by
  cases context with
  | root frame => rfl
  | nested frame parent => rfl

end Write

/-! ### Landing -/

/-- What a permitted write leaves behind. -/
theorem Landed.write (stored : context.id < state.store.size) (trace : List Event) :
    Landed key value [] context state
      (({ state with trace := trace } : State).update context.id
        (fun registry => registry.setVariable key value)) := by
  refine ⟨?_, fun _ hmem => absurd hmem List.not_mem_nil, ?_⟩
  · rw [State.store_update, Store.registry_update_self _ stored]
    exact Table.get?_insert_self _ _ _
  · have hidden : (Veil.binding key [context]).locals context.id key :=
      Veil.binding_of_mem (List.mem_singleton.mpr rfl)
    have hasked : state.Alike (.binding key [context]) { state with trace := trace } :=
      .of_store_eq rfl rfl
    exact hasked.trans (State.alike_update (fun registry => registry.alike_setVariable hidden _) _)

/-- A context inside loses its binding. -/
theorem Landed.remove {scope : Context} (landed : Landed key value inner landing state final)
    (stored : scope.id < final.store.size) (apart : scope.id ≠ landing.id) :
    Landed key value (scope :: inner) landing state
      (final.update scope.id (fun registry => registry.removeVariable key)) := by
  refine ⟨?_, ?_, ?_⟩
  · rw [State.store_update, Store.registry_update_of_ne _ _ apart]
    exact landed.bound
  · intro other hother
    rw [State.store_update]
    by_cases hsame : scope.id = other.id
    · rw [← hsame, Store.registry_update_self _ stored]
      exact Table.get?_erase_self _ _
    · have hinner : other ∈ inner :=
        (List.mem_cons.mp hother).resolve_left (fun heq => hsame (heq ▸ rfl))
      rw [Store.registry_update_of_ne _ _ hsame]
      exact landed.cleared other hinner
  · have hidden : (Veil.binding key (landing :: scope :: inner)).locals scope.id key :=
      Veil.binding_of_mem (List.mem_cons_of_mem _ List.mem_cons_self)
    have hbefore : state.Alike (.binding key (landing :: scope :: inner)) final := by
      refine landed.alike.binding_mono (fun other hother => ?_)
      rcases List.mem_cons.mp hother with rfl | hinner
      · exact List.mem_cons_self
      · exact List.mem_cons_of_mem _ (List.mem_cons_of_mem _ hinner)
    refine hbefore.trans (State.alike_update (fun registry => ?_) _)
    exact registry.alike_removeVariable hidden

/-- Nothing has changed in the other contexts. -/
theorem Landed.registry_eq (landed : Landed key value inner landing state final) {id : Nat}
    (hlanding : landing.id ≠ id) (hinner : ∀ scope ∈ inner, scope.id ≠ id) :
    final.store.registry id = state.store.registry id := by
  refine (landed.alike.registry_eq ?_ (fun _ hidden => hidden)).symm
  rintro name ⟨-, scope, hscope, hid⟩
  rcases List.mem_cons.mp hscope with rfl | hmem
  · exact hlanding hid
  · exact hinner scope hmem hid

/-- A context that declines comes to a failure. -/
theorem exists_verdict_eq_failure (declines : context.Declines key value store) :
    ∃ reason, context.verdict key value store (context.priorAttempt key value store) =
      .failure reason := by
  obtain ⟨denial, hdenial⟩ := declines
  rw [question] at hdenial
  rw [verdict, hdenial]
  exact ⟨_, rfl⟩

/-- A context that declines a global write only asks. -/
theorem write_of_declines (declines : context.Declines key value state.store) :
    context.write key true value (context.priorAttempt key value state.store) state =
      (context.verdict key value state.store (context.priorAttempt key value state.store),
        state.asked context (context.question key value state.store)) := by
  obtain ⟨denial, hdenial⟩ := declines
  rw [question] at hdenial
  rw [write_of_refused hdenial, verdict, hdenial, question]

/-- A global write that all contexts decline asks each of them and changes nothing. -/
theorem set_of_declines
    (declined : ∀ scope ∈ context.ancestry, scope.Declines key value state.store) :
    context.set key true value state =
      (context.verdict key value state.store (context.priorAttempt key value state.store),
        { state with trace := context.questions key value state.store ++ state.trace }) := by
  induction context with
  | root frame =>
    exact write_of_declines (declined _ (mem_ancestry_self _))
  | nested frame parent ih =>
    have hparent := ih (fun scope hscope => declined scope (mem_ancestry_nested hscope))
    obtain ⟨reason, hreason⟩ := exists_verdict_eq_failure
      (declined parent (mem_ancestry_nested parent.mem_ancestry_self))
    -- the failure of the parent is the attempt that this context is asked about
    have hprior : (nested frame parent).priorAttempt key value state.store =
        some (.failure reason) := by
      rw [priorAttempt, hreason]
    have hwrite : ∀ trace : List Event,
        (nested frame parent).write key true value (some (.failure reason))
            { state with trace := trace } =
          ((nested frame parent).verdict key value state.store (some (.failure reason)),
            ({ state with trace := trace } : State).asked (nested frame parent)
              ((nested frame parent).question key value state.store)) := by
      intro trace
      let asked : State := { state with trace := trace }
      have declines : (nested frame parent).Declines key value asked.store :=
        declined _ (mem_ancestry_self _)
      rw [← hprior]
      exact write_of_declines declines
    rw [set, if_pos rfl, Access.bind_apply, hparent, hreason, hprior]
    exact hwrite _

/-- A global write that only the context itself admits is made there. -/
theorem set_of_admits_self (admits : context.Admits key value state.store) :
    context.set key true value state =
      (.success (),
        ({ state with
          trace := context.questions key value state.store ++ state.trace } : State).update
          context.id (fun registry => registry.setVariable key value)) := by
  have hpermits := admits.permits
  cases context with
  | root frame => exact write_of_permits hpermits
  | nested frame parent =>
    obtain ⟨reason, hreason⟩ :=
      exists_verdict_eq_failure (admits.outer parent parent.mem_ancestry_self)
    rw [question, priorAttempt, hreason] at hpermits
    rw [set, if_pos rfl, Access.bind_apply, set_of_declines admits.outer, hreason,
      questions_nested, question, priorAttempt, hreason]
    exact write_of_permits hpermits

/-- A global write lands in the outermost context that admits it, and asks no context inside. -/
theorem set_of_admits (lodged : context.Lodged state.store)
    (chain : context.ancestry = inner ++ landing.ancestry)
    (admits : landing.Admits key value state.store) :
    (context.set key true value state).1 = .success () ∧
      Landed key value inner landing state (context.set key true value state).2 ∧
      (context.set key true value state).2.trace =
        landing.questions key value state.store ++ state.trace := by
  induction inner generalizing context with
  | nil =>
    obtain rfl := ancestry_injective chain
    rw [set_of_admits_self admits]
    exact ⟨rfl, .write lodged.stored _, rfl⟩
  | cons scope inner ih =>
    cases context with
    | root frame =>
      rw [ancestry_eq_cons landing] at chain
      simp [ancestry] at chain
    | nested frame parent =>
      obtain ⟨rfl, hchain⟩ := List.cons.inj chain
      have hapart := lodged.id_ne_of_append chain landing.mem_ancestry_self _ List.mem_cons_self
      obtain ⟨hsuccess, hlanded, htrace⟩ := ih (lodged.of_append (rfl : _ = [_] ++ _)) hchain
      rw [set, if_pos rfl, Access.bind_apply, hsuccess]
      have hstored := lodged.stored
      rw [hlanded.alike.size] at hstored
      exact ⟨rfl, hlanded.remove hstored hapart, htrace⟩

/-- A write of either kind succeeds and lands in the context or around it, or it fails and leaves
the store as it was. -/
theorem set_lands_or_fails (lodged : context.Lodged state.store) (key : String) (global : Bool)
    (value : Value) :
    (∃ (inner : List Context) (landing : Context),
      context.ancestry = inner ++ landing.ancestry ∧ (global = false → inner = []) ∧
        (global = true → landing.Admits key value state.store) ∧
        (context.set key global value state).1 = .success () ∧
        Landed key value inner landing state (context.set key global value state).2) ∨
      ((∃ reason, (context.set key global value state).1 = .failure reason) ∧
        (context.set key global value state).2.store = state.store ∧
        (context.set key global value state).2.nextFunction = state.nextFunction) := by
  cases global with
  | false =>
    rw [set_local]
    rcases context.refused_or_permits state.store (.setVariable key false value none) with
      ⟨denial, hdenial⟩ | permits
    · rw [write_of_refused hdenial]
      exact .inr ⟨⟨_, rfl⟩, rfl, rfl⟩
    · rw [write_of_permits permits]
      refine .inl ⟨[], context, rfl, fun _ => rfl, ?_, rfl, .write lodged.stored _⟩
      exact fun hglobal => absurd hglobal Bool.false_ne_true
  | true =>
    rcases admits_or_declines key value state.store context with
      ⟨inner, landing, chain, admits⟩ | declined
    · obtain ⟨hsuccess, hlanded, -⟩ := set_of_admits lodged chain admits
      refine .inl ⟨inner, landing, chain, ?_, fun _ => admits, hsuccess, hlanded⟩
      exact fun hlocal => absurd hlocal.symm Bool.false_ne_true
    · rw [set_of_declines declined]
      exact .inr ⟨exists_verdict_eq_failure (declined _ context.mem_ancestry_self), rfl, rfl⟩

end Landing

end Context

/-- A global write lands in exactly one place.  It asks the contexts from the root inward until one
does not refuse, and no further.  If there is one, the write succeeds: the variable is bound there,
the contexts inside have lost their bindings of it, and nothing else has changed in any context.  If
all contexts refuse, the write fails and has left nothing but the questions.  It never comes to
nothing.  What is asked is asked about the store as it is before the write. -/
theorem Context.set_global_landing {context : Context} {state : State}
    (lodged : context.Lodged state.store) (key : String) (value : Value) :
    let result := context.set key true value state
    (∀ (inner : List Context) (landing : Context),
      context.ancestry = inner ++ landing.ancestry → landing.Admits key value state.store →
        result.1 = .success () ∧ Landed key value inner landing state result.2 ∧
          (∀ scope ∈ landing.outer,
            result.2.store.registry scope.id = state.store.registry scope.id) ∧
          (∀ id, (∀ scope ∈ context.ancestry, scope.id ≠ id) →
            result.2.store.registry id = state.store.registry id) ∧
          result.2.trace = landing.questions key value state.store ++ state.trace) ∧
      ((∀ scope ∈ context.ancestry, scope.Declines key value state.store) →
        (∃ reason, result.1 = .failure reason) ∧
          result.2 =
            { state with trace := context.questions key value state.store ++ state.trace }) ∧
      result.1 ≠ .empty := by
  intro result
  refine ⟨?_, ?_, ?_⟩
  · intro inner landing chain admits
    obtain ⟨hsuccess, hlanded, htrace⟩ := set_of_admits lodged chain admits
    refine ⟨hsuccess, hlanded, ?_, ?_, htrace⟩
    · intro scope hscope
      have hmem : scope ∈ landing.ancestry := by
        rw [ancestry_eq_cons]
        exact List.mem_cons_of_mem _ hscope
      have hlanding : landing.id ≠ scope.id :=
        Nat.ne_of_gt ((lodged.of_append chain).outer_lt scope hscope)
      exact hlanded.registry_eq hlanding (lodged.id_ne_of_append chain hmem)
    · intro id hid
      rw [chain] at hid
      refine hlanded.registry_eq ?_ (fun scope hscope => hid scope (List.mem_append_left _ hscope))
      exact hid landing (List.mem_append_right _ landing.mem_ancestry_self)
  · intro declined
    have hresult : result = _ := set_of_declines declined
    rw [hresult]
    exact ⟨exists_verdict_eq_failure (declined _ context.mem_ancestry_self), rfl⟩
  · intro hempty
    rcases set_lands_or_fails lodged key true value with
      ⟨-, -, -, -, -, hsuccess, -⟩ | ⟨⟨reason, hfailure⟩, -⟩
    · cases hsuccess.symm.trans hempty
    · cases hfailure.symm.trans hempty

/-- A root whose policy refuses to write the variable `k`, and nothing else. -/
def fixedRoot : Context :=
  .root ⟨0, .global,
    .custom "fixed"
      (fun _ check =>
        match check with
        | .setVariable "k" _ _ _ => .failure (.accessDenied "fixed")
        | _ => .empty)
      (fun _ _ => .empty), {}⟩

def belowFixed : Context :=
  .nested ⟨1, .global, .permissive, {}⟩ fixedRoot

def shadowing : Context :=
  .nested ⟨2, .scope defaultMarker, .permissive, {}⟩ belowFixed

/-- The variable `k` is bound in the root and once more in the innermost context. -/
def boundTwice : State where
  store := ⟨#[⟨(∅ : Table _).insert "k" (.int 0), ∅⟩, {}, ⟨(∅ : Table _).insert "k" (.int 1), ∅⟩]⟩

/-- The root refuses, so that the write lands in the context between; from the root alone it
fails. -/
theorem set_global_landing_below_fixed :
    let result := shadowing.set "k" true (.int 7) boundTwice
    shadowing.Lodged boundTwice.store ∧ shadowing.ancestry = [shadowing] ++ belowFixed.ancestry ∧
      belowFixed.Admits "k" (.int 7) boundTwice.store ∧ result.1 = .success () ∧
      Context.Landed "k" (.int 7) [shadowing] belowFixed boundTwice result.2 ∧
      (∀ scope ∈ fixedRoot.ancestry, scope.Declines "k" (.int 7) boundTwice.store) ∧
      ∃ reason, (fixedRoot.set "k" true (.int 7) boundTwice).1 = .failure reason := by
  intro result
  have lodged : shadowing.Lodged boundTwice.store := ⟨by decide, by decide⟩
  have lodgedRoot : fixedRoot.Lodged boundTwice.store := ⟨by decide, by decide⟩
  have declines : ∀ scope ∈ fixedRoot.ancestry, scope.Declines "k" (.int 7) boundTwice.store := by
    intro scope hscope
    rw [List.mem_singleton.mp hscope]
    exact ⟨_, rfl⟩
  have admits : belowFixed.Admits "k" (.int 7) boundTwice.store := ⟨declines, fun _ h => by cases h⟩
  have landing :=
    (Context.set_global_landing lodged "k" (.int 7)).1 [shadowing] belowFixed rfl admits
  have refused := (Context.set_global_landing lodgedRoot "k" (.int 7)).2.1 declines
  exact ⟨lodged, rfl, admits, landing.1, landing.2.1, declines, refused.1⟩

end GuardedScript

import GuardedScript.Proofs.Growth
import GuardedScript.Proofs.Sealing
import Mathlib.Data.List.Forall2

/-!
# Where registrations land

A global registration goes outward for as long as the policies let it turn to the parent.  On the
way back it stays in the first context whose policy does not refuse it.  So a function comes to be
in the outermost context of the way that takes it, behind the functions that are there under the
key, and nowhere else; if none takes it, the registration fails and leaves all registries as they
were (`Context.register_global_landing`).

All questions are asked before anything is changed, so the policies see the store as it was when the
registration began.

The key is made anew in every context, and is the same in all of them since keys are their own keys.
Whoever looks for the name afterwards, in whatever spelling, comes to the function if the policies
let the search come that far.
-/

set_option autoImplicit false

namespace GuardedScript

/-- A failure without a cause takes the reports of its cause behind its own. -/
theorem Failure.chain_causedBy_of_uncaused {failure : Failure} (h : failure.cause? = none)
    (cause : Failure) : (failure.causedBy cause).chain = failure.chain ++ cause.chain := by
  cases failure with
  | bare code message => rfl
  | caused code message earlier => cases h

/-- The reports of an operation that was refused in several contexts: in each the failure of the
operation itself, and then the refusal with all its causes. -/
def Failure.provenance (failed : Failure) (denials : List Failure) : List Report :=
  denials.flatMap (fun denial => failed.chain ++ denial.chain)

/-- Without refusals there are no reports. -/
@[simp]
theorem Failure.provenance_nil (failed : Failure) : failed.provenance [] = [] := rfl

/-- The reports of the innermost context come first. -/
@[simp]
theorem Failure.provenance_cons (failed denial : Failure) (denials : List Failure) :
    failed.provenance (denial :: denials) =
      failed.chain ++ (denial.chain ++ failed.provenance denials) := by
  simp [provenance]

namespace Context

section Registration

variable (key : String) (function : Function) (store : Store)

/-- The contexts that a global registration comes to, innermost first, and the refusal to turn to
the parent that ended its way.  A registration that comes to the root is not stopped by one. -/
inductive Route : Context → List Context → Option Failure → Prop
  | root (frame : Frame) : Route (.root frame) [.root frame] none
  | kept {frame : Frame} {parent : Context} {denial : Failure}
      (refused : (nested frame parent).decision store (.askParentToRegister key function) =
        .failure denial) : Route (nested frame parent) [nested frame parent] (some denial)
  | outward {frame : Frame} {parent : Context} {route : List Context} {stop : Option Failure}
      (permitted : (nested frame parent).Permits store (.askParentToRegister key function))
      (rest : Route parent route stop) :
      Route (nested frame parent) (nested frame parent :: route) stop

/-- The policy of the context does not refuse to register the function there. -/
def Takes (context : Context) : Prop :=
  context.Permits store (.registerFunction key function true)

/-- The policy of the context refuses to register the function there, for a reason. -/
def Denies (context : Context) (denial : Failure) : Prop :=
  context.decision store (.registerFunction key function true) = .failure denial

/-- What a refusal to turn to the parent counts as. -/
def askRefusal (denial : Failure) : Failure :=
  (Failure.accessDenied ("ask parent to register function '" ++ key ++ "'")).causedBy denial

/-- A function stands behind those that a context had under a key, and nothing else has changed. -/
structure Enrolled (landing : Context) (state final : State) : Prop where
  added : (final.store.registry landing.id).overloads key =
    (state.store.registry landing.id).overloads key ++ [function]
  otherKeys : ∀ other, other ≠ key → (final.store.registry landing.id).overloads other =
    (state.store.registry landing.id).overloads other
  locals : (final.store.registry landing.id).locals = (state.store.registry landing.id).locals
  elsewhere : ∀ id, id ≠ landing.id → final.store.registry id = state.store.registry id

variable {key function store} {context landing : Context} {route inner beyond : List Context}
  {stop : Option Failure} {state final : State} {name : String}

/-! ### The way of a registration -/

/-- Every registration has a way, which the policies decide. -/
theorem exists_route (key : String) (function : Function) (store : Store) (context : Context) :
    ∃ route stop, context.Route key function store route stop := by
  induction context with
  | root frame => exact ⟨_, _, .root frame⟩
  | nested frame parent ih =>
    rcases (nested frame parent).refused_or_permits store (.askParentToRegister key function) with
      ⟨denial, refused⟩ | permitted
    · exact ⟨_, _, .kept refused⟩
    · obtain ⟨route, stop, hroute⟩ := ih
      exact ⟨_, _, .outward permitted hroute⟩

/-- A registration goes outward from its context. -/
theorem Route.outward_ancestry (h : context.Route key function store route stop) :
    route <+: context.ancestry := by
  induction h with
  | root frame => exact List.prefix_rfl
  | kept _ => exact singleton_outward _
  | outward _ _ ih => exact List.cons_prefix_cons.mpr ⟨rfl, ih⟩

/-! ### Registrations in the context itself -/

/-- A context that refuses the function does nothing but ask. -/
theorem enlist_of_denies {attempt : Option (Outcome Unit)} {denial : Failure}
    (hstart : state.store = store) (h : context.Denies key function store denial) :
    context.enlist key function true attempt state =
      (.failure ((Failure.failedToRegisterFunction key).causedBy (denial.after attempt)),
        state.asked context (.registerFunction key function true)) := by
  subst hstart
  exact guarded_of_refused _ _ state h

/-- A context that takes the function adds it to its own. -/
theorem enlist_of_takes {attempt : Option (Outcome Unit)}
    (hstart : state.store = store) (h : context.Takes key function store) :
    context.enlist key function true attempt state =
      (.success (), (state.asked context (.registerFunction key function true)).update context.id
        (fun registry => registry.addFunction key function)) := by
  subst hstart
  exact guarded_of_permits _ _ state h

/-! ### Registrations with the parent -/

section Parent

variable {frame : Frame} {parent : Context}

/-- A root registers in itself. -/
theorem register_root (hkey : Text.key name = key) :
    (Context.root frame).register name function true state =
      (Context.root frame).enlist key function true none state := by
  rw [register, hkey]

/-- A registration that may not turn to the parent is made in the context itself. -/
theorem register_of_kept {denial : Failure} (hkey : Text.key name = key)
    (refused : (nested frame parent).decision state.store (.askParentToRegister key function) =
      .failure denial) :
    (nested frame parent).register name function true state =
      (nested frame parent).enlist key function true (some (.failure (askRefusal key denial)))
        (state.asked (nested frame parent) (.askParentToRegister key function)) := by
  subst hkey
  rw [register, if_pos rfl, Access.bind_apply, guarded_of_refused _ _ _ refused]
  rfl

/-- A registration that the parent refuses is made in the context itself. -/
theorem register_of_outward_failure {reason : Failure} (hkey : Text.key name = key)
    (permitted : (nested frame parent).Permits state.store (.askParentToRegister key function))
    (refused : (parent.register key function true
      (state.asked (nested frame parent) (.askParentToRegister key function))).1 =
        .failure reason) :
    (nested frame parent).register name function true state =
      (nested frame parent).enlist key function true (some (.failure reason))
        (parent.register key function true
          (state.asked (nested frame parent) (.askParentToRegister key function))).2 := by
  subst hkey
  rw [register, if_pos rfl, Access.bind_apply, guarded_of_permits _ _ _ permitted, refused]

/-- A registration that the parent takes is finished. -/
theorem register_of_outward_success (hkey : Text.key name = key)
    (permitted : (nested frame parent).Permits state.store (.askParentToRegister key function))
    (taken : (parent.register key function true
      (state.asked (nested frame parent) (.askParentToRegister key function))).1 = .success ()) :
    (nested frame parent).register name function true state =
      (.success (), (parent.register key function true
        (state.asked (nested frame parent) (.askParentToRegister key function))).2) := by
  subst hkey
  rw [register, if_pos rfl, Access.bind_apply, guarded_of_permits _ _ _ permitted, taken]
  rfl

end Parent

/-! ### Landing -/

/-- The reports of the refusal that ended the way of a registration. -/
def stopReports (key : String) : Option Failure → List Report
  | some denial => (askRefusal key denial).chain
  | none => []

/-- A registration that all contexts of its way refuse fails, keeps the reports of all refusals, and
leaves the store as it was. -/
theorem register_of_denies (hroute : context.Route key function store route stop)
    {denials : List Failure}
    (denied : List.Forall₂ (fun scope denial => scope.Denies key function store denial) route
      denials)
    (hkey : Text.key name = key) (state : State) (hstart : state.store = store) :
    ∃ reason, (context.register name function true state).1 = .failure reason ∧
      reason.chain =
        (Failure.failedToRegisterFunction key).provenance denials ++ stopReports key stop ∧
      (context.register name function true state).2.store = state.store := by
  induction hroute generalizing name denials state with
  | root frame =>
    obtain ⟨denial, rest, hdenies, hnil, rfl⟩ := List.forall₂_cons_left_iff.mp denied
    obtain rfl := List.forall₂_nil_left_iff.mp hnil
    rw [register_root hkey, enlist_of_denies hstart hdenies]
    refine ⟨_, rfl, ?_, rfl⟩
    rw [Failure.chain_causedBy_of_uncaused rfl]
    simp [stopReports, Failure.after]
  | @kept frame parent _ refused =>
    subst hstart
    obtain ⟨denial, rest, hdenies, hnil, rfl⟩ := List.forall₂_cons_left_iff.mp denied
    obtain rfl := List.forall₂_nil_left_iff.mp hnil
    have hasked := state.store_asked (nested frame parent) (.askParentToRegister key function)
    rw [register_of_kept hkey refused, enlist_of_denies hasked hdenies]
    refine ⟨_, rfl, ?_, rfl⟩
    rw [Failure.chain_causedBy_of_uncaused rfl]
    simp [stopReports, Failure.after]
  | @outward frame parent _ _ permitted rest ih =>
    subst hstart
    obtain ⟨denial, denials, hdenies, hrest, rfl⟩ := List.forall₂_cons_left_iff.mp denied
    have hkeyAgain : Text.key key = key := by rw [← hkey, Text.key_key]
    have hasked := state.store_asked (nested frame parent) (.askParentToRegister key function)
    -- the parent leaves the store alone, so that the context is asked about the same one
    obtain ⟨previous, hfailure, hchain, hstore⟩ := ih hrest hkeyAgain _ hasked
    rw [register_of_outward_failure hkey permitted hfailure, enlist_of_denies hstore hdenies]
    refine ⟨_, rfl, ?_, hstore⟩
    rw [Failure.chain_causedBy_of_uncaused rfl]
    simp [Failure.after, hchain]

/-- Contexts that all refuse have a refusal each. -/
theorem exists_denials (h : ∀ scope ∈ route, ∃ denial, scope.Denies key function store denial) :
    ∃ denials,
      List.Forall₂ (fun scope denial => scope.Denies key function store denial) route denials := by
  induction route with
  | nil => exact ⟨[], .nil⟩
  | cons scope route ih =>
    obtain ⟨⟨denial, hdenies⟩, hrest⟩ := List.forall_mem_cons.mp h
    obtain ⟨denials, hdenials⟩ := ih hrest
    exact ⟨denial :: denials, .cons hdenies hdenials⟩

/-- A list of one element can be split around that one only. -/
private theorem eq_of_singleton_split {α : Type} {first middle : α} {before after : List α}
    (h : [first] = before ++ middle :: after) : middle = first := by
  cases before with
  | nil => exact (List.cons.inj h).1.symm
  | cons _ before => simp at h

/-- A registration is made in the outermost context of its way that takes it. -/
theorem register_of_takes (hroute : context.Route key function store route stop)
    (split : route = inner ++ landing :: beyond) (takes : landing.Takes key function store)
    (denied : ∀ scope ∈ beyond, ∃ denial, scope.Denies key function store denial)
    (hkey : Text.key name = key) (state : State) (hstart : state.store = store) :
    (context.register name function true state).1 = .success () ∧
      (context.register name function true state).2.store =
        state.store.update landing.id (fun registry => registry.addFunction key function) := by
  induction hroute generalizing name inner state with
  | root frame =>
    obtain rfl := eq_of_singleton_split split
    rw [register_root hkey, enlist_of_takes hstart takes]
    exact ⟨rfl, rfl⟩
  | @kept frame parent _ refused =>
    subst hstart
    obtain rfl := eq_of_singleton_split split
    have hasked := state.store_asked (nested frame parent) (.askParentToRegister key function)
    rw [register_of_kept hkey refused, enlist_of_takes hasked takes]
    exact ⟨rfl, rfl⟩
  | @outward frame parent _ _ permitted rest ih =>
    subst hstart
    have hkeyAgain : Text.key key = key := by rw [← hkey, Text.key_key]
    have hasked := state.store_asked (nested frame parent) (.askParentToRegister key function)
    cases inner with
    | nil =>
      -- all contexts further out refuse, so that the context itself is the last one asked
      obtain ⟨rfl, rfl⟩ := List.cons.inj split
      obtain ⟨denials, hdenials⟩ := exists_denials denied
      obtain ⟨reason, hfailure, -, hstore⟩ :=
        register_of_denies rest hdenials hkeyAgain _ hasked
      rw [register_of_outward_failure hkey permitted hfailure, enlist_of_takes hstore takes]
      exact ⟨rfl, congrArg (fun store : Store => store.update _ _) hstore⟩
    | cons scope inner =>
      obtain ⟨-, hsplit⟩ := List.cons.inj split
      obtain ⟨hsuccess, hstore⟩ := ih hsplit hkeyAgain _ hasked
      rw [register_of_outward_success hkey permitted hsuccess]
      exact ⟨rfl, hstore⟩

/-- A function that was added to the registry of a context is enrolled there. -/
theorem enrolled_of_store (stored : landing.id < state.store.size)
    (hstore : final.store =
      state.store.update landing.id (fun registry => registry.addFunction key function)) :
    Enrolled key function landing state final := by
  have hlanding : final.store.registry landing.id =
      (state.store.registry landing.id).addFunction key function := by
    rw [hstore, Store.registry_update_self _ stored]
  refine ⟨?_, ?_, ?_, ?_⟩
  · rw [hlanding, Registry.overloads_addFunction, if_pos rfl]
  · intro other hother
    rw [hlanding, Registry.overloads_addFunction, if_neg (Ne.symm hother), List.append_nil]
  · rw [hlanding]
    rfl
  · intro id hid
    rw [hstore, Store.registry_update_of_ne _ _ (Ne.symm hid)]

/-- Some context of a way takes a function, and of those the outermost one, or all refuse it. -/
theorem takes_or_denies (key : String) (function : Function) (store : Store)
    (route : List Context) :
    (∃ inner landing beyond, route = inner ++ landing :: beyond ∧
      landing.Takes key function store ∧
      ∀ scope ∈ beyond, ∃ denial, scope.Denies key function store denial) ∨
      ∀ scope ∈ route, ∃ denial, scope.Denies key function store denial := by
  induction route with
  | nil => exact .inr (fun _ hmem => absurd hmem List.not_mem_nil)
  | cons scope route ih =>
    rcases ih with ⟨inner, landing, beyond, rfl, takes, denied⟩ | denied
    · exact .inl ⟨scope :: inner, landing, beyond, rfl, takes, denied⟩
    · rcases scope.refused_or_permits store (.registerFunction key function true) with
        denies | takes
      · exact .inr (List.forall_mem_cons.mpr ⟨denies, denied⟩)
      · exact .inl ⟨[], scope, route, rfl, takes, denied⟩

end Registration

end Context

/-- A global registration lands in exactly one place.  It goes outward from the context until a
policy refuses to turn to the parent, and succeeds exactly if some context of that way takes the
function, each asked about the store as it is before.  Then the function stands behind the others
under its key in the outermost context that takes it, and nothing else has changed; and from then on
every search for the name, in whatever spelling, that the policies let come to that context has the
function among its candidates.  If no context takes it, the registration fails and no registry has
changed. -/
theorem Context.register_global_landing {context : Context} {state : State}
    (lodged : context.Lodged state.store) (name : String) (function : Function) :
    let key := Text.key name
    let result := context.register name function true state
    ∃ route stop, context.Route key function state.store route stop ∧
      (result.1 = .success () ↔ ∃ scope ∈ route, scope.Takes key function state.store) ∧
      (∀ inner landing beyond, route = inner ++ landing :: beyond →
        landing.Takes key function state.store →
        (∀ scope ∈ beyond, ∃ denial, scope.Denies key function state.store denial) →
          Enrolled key function landing state result.2 ∧
            ∀ later, result.2.Grown later →
              Discoverable key context inner landing function
                ((state.store.registry landing.id).overloads key).length later) ∧
      ((∀ scope ∈ route, ∃ denial, scope.Denies key function state.store denial) →
        (∃ reason, result.1 = .failure reason) ∧ result.2.store = state.store) := by
  intro key result
  obtain ⟨route, stop, hroute⟩ := exists_route key function state.store context
  refine ⟨route, stop, hroute, ⟨?_, ?_⟩, ?_, ?_⟩
  · intro hsuccess
    rcases takes_or_denies key function state.store route with
      ⟨inner, landing, beyond, rfl, takes, -⟩ | denied
    · exact ⟨landing, List.mem_append_right _ List.mem_cons_self, takes⟩
    · obtain ⟨denials, hdenials⟩ := exists_denials denied
      obtain ⟨reason, hfailure, -, -⟩ := register_of_denies hroute hdenials rfl state rfl
      cases hfailure.symm.trans hsuccess
  · rintro ⟨scope, hscope, takes⟩
    rcases takes_or_denies key function state.store route with
      ⟨inner, landing, beyond, hsplit, htakes, denied⟩ | denied
    · exact (register_of_takes hroute hsplit htakes denied rfl state rfl).1
    · obtain ⟨denial, hdenies⟩ := denied scope hscope
      exact absurd hdenies (takes denial)
  · intro inner landing beyond hsplit takes denied
    obtain ⟨-, hstore⟩ := register_of_takes hroute hsplit takes denied rfl state rfl
    have houtward : inner ++ [landing] <+: context.ancestry := by
      refine List.IsPrefix.trans ⟨beyond, ?_⟩ hroute.outward_ancestry
      rw [hsplit, List.append_assoc]
      rfl
    have hlanding : landing ∈ context.ancestry :=
      houtward.subset (List.mem_append_right _ List.mem_cons_self)
    have henrolled : Enrolled key function landing state result.2 :=
      enrolled_of_store (lodged.ancestry_lt landing hlanding) hstore
    refine ⟨henrolled, fun later grown => discoverable_of_outward houtward ?_⟩
    rw [← henrolled.added]
    exact grown landing.id key
  · intro denied
    obtain ⟨denials, hdenials⟩ := exists_denials denied
    obtain ⟨reason, hfailure, -, hstore⟩ := register_of_denies hroute hdenials rfl state rfl
    exact ⟨⟨reason, hfailure⟩, hstore⟩

/-- A root whose policy refuses all registrations, and nothing else. -/
def closedRoot : Context :=
  .root ⟨0, .global,
    .custom "closed"
      (fun _ check =>
        match check with
        | .registerFunction _ _ _ => .failure (.accessDenied "closed")
        | _ => .empty)
      (fun _ _ => .empty), {}⟩

def belowClosed : Context :=
  .nested ⟨1, .global, .permissive, {}⟩ closedRoot

def registering : Context :=
  .nested ⟨2, .scope defaultMarker, .permissive, {}⟩ belowClosed

/-- A function that answers with its own number. -/
def numbered (id : Nat) : Function :=
  ⟨id, "g h", [], false, .native (fun _ => .done (.success (.int id.toInt64)))⟩

/-- The context below the root has a function `g h` already. -/
def staffed : State where
  store := ⟨#[{}, ⟨∅, (∅ : Table _).insert "g_h" [numbered 0]⟩, {}]⟩

/-- The registration goes to the root, which refuses, and lands below it, behind the function that
is there.  Other spellings of the name lead to it. -/
theorem register_global_landing_below_closed :
    let result := registering.register " g\t h" (numbered 1) true staffed
    registering.Lodged staffed.store ∧
      registering.Route "g_h" (numbered 1) staffed.store [registering, belowClosed, closedRoot]
        none ∧
      result.1 = .success () ∧
      Context.Enrolled "g_h" (numbered 1) belowClosed staffed result.2 ∧
      OpenPathIn "g_h" result.2 registering [registering, belowClosed] ∧
      Discoverable "g_h" registering [registering] belowClosed (numbered 1) 1 result.2 := by
  intro result
  have lodged : registering.Lodged staffed.store := ⟨by decide, by decide⟩
  have silent : ∀ {scope : Context} {store : Store} {check : Check},
      scope.decision store check = .empty → scope.Permits store check := by
    intro scope store check hempty reason hrefused
    cases hempty.symm.trans hrefused
  have hkey : Text.key " g\t h" = "g_h" := by decide +kernel
  have path : OpenPathIn "g_h" result.2 registering [registering, belowClosed] := by
    refine openPathIn_of_permits ⟨[closedRoot], rfl⟩ ?_ ?_
    · simp only [List.forall_mem_cons]
      exact ⟨silent rfl, silent rfl, fun _ hmem => absurd hmem List.not_mem_nil⟩
    · simp only [List.forall_mem_cons]
      exact ⟨silent rfl, silent rfl, fun _ hmem => absurd hmem List.not_mem_nil⟩
  obtain ⟨route, stop, hroute, hsuccess, hlanding, -⟩ :=
    Context.register_global_landing lodged " g\t h" (numbered 1)
  rw [hkey] at hroute hsuccess hlanding
  -- neither of the nested contexts refuses to turn to its parent
  obtain ⟨rfl, rfl⟩ : route = [registering, belowClosed, closedRoot] ∧ stop = none := by
    cases hroute with
    | kept refused => cases refused
    | outward _ rest =>
      cases rest with
      | kept refused => cases refused
      | outward _ rest =>
        cases rest
        exact ⟨rfl, rfl⟩
  obtain ⟨henrolled, hfound⟩ := hlanding [registering] belowClosed [closedRoot] rfl (silent rfl)
    (List.forall_mem_singleton.mpr ⟨_, rfl⟩)
  exact ⟨lodged, hroute, hsuccess.mpr ⟨belowClosed, by simp, silent rfl⟩, henrolled, path,
    hfound _ (.refl _)⟩

end GuardedScript

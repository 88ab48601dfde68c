import GuardedScript.Proofs.Inheritance

/-!
# Local code leaves the contexts around it alone

Programs in which every write and every registration is local change only contexts that were opened
by their own run.  A block opens a scope before its first statement, and a call opens a context
before its first argument is bound; from there on nothing reaches back.  So a block leaves the
variables and functions of all contexts that were there before it as they were, whatever it calls,
shadows or declares and however it ends (`Block.run_leaves_outer`).

The places of the store are given out in increasing order, so the contexts that were there before
are those below a bound.
-/

set_option autoImplicit false

namespace GuardedScript

/-- Nothing is written or registered globally. -/
def Terms.localOnly : Terms where
  Keeps _ := True
  Writes global := global = false
  keeps_of_fixed := fun _ => trivial
  keeps_ofList := fun _ => trivial
  writes_local := rfl

/-- A store has lost no registries, and those at the places below a bound are as they were. -/
structure Untouched (lower : Nat) (state final : State) : Prop where
  grows : state.store.size ≤ final.store.size
  same : ∀ id < lower, final.store.registry id = state.store.registry id

section Untouched

variable {lower : Nat}

/-- Nothing is touched by doing nothing. -/
theorem Untouched.refl (state : State) : Untouched lower state state :=
  ⟨Nat.le_refl _, fun _ _ => rfl⟩

/-- What two parts of a run leave alone, both together do. -/
theorem Untouched.trans {first second third : State} (hfirst : Untouched lower first second)
    (hsecond : Untouched lower second third) : Untouched lower first third := by
  refine ⟨Nat.le_trans hfirst.grows hsecond.grows, ?_⟩
  intro id hid
  rw [hsecond.same id hid, hfirst.same id hid]

/-- An event touches no registry. -/
theorem untouched_log (state : State) (event : Event) : Untouched lower state (state.log event) :=
  ⟨Nat.le_refl _, fun _ _ => rfl⟩

/-- A new registry leaves the others alone. -/
theorem untouched_extend (state : State) : Untouched lower state state.extend := by
  refine ⟨?_, ?_⟩
  · rw [State.store_extend, Store.size_extend]
    omega
  · intro id _
    rw [State.store_extend, Store.registry_extend]

/-- A change at a place above the bound leaves the places below it alone. -/
theorem untouched_update {id : Nat} (hid : lower ≤ id) (state : State)
    (change : Registry → Registry) : Untouched lower state (state.update id change) := by
  refine ⟨?_, ?_⟩
  · exact Nat.le_of_eq (by rw [State.store_update, Store.size_update])
  · intro other hother
    have hne : id ≠ other := by omega
    rw [State.store_update, Store.registry_update_of_ne _ _ hne]

/-- Questions touch no registry. -/
theorem passage_untouched : Passage (fun _ => True) (Untouched lower) where
  refl := Untouched.refl
  trans := Untouched.trans
  asked := fun state _ _ _ => untouched_log state _

variable {context : Context} (hcontext : lower ≤ context.id)

include hcontext

/-- A local write of a context above the bound leaves the places below it alone. -/
theorem set_untouched (key : String) (value : Value) (state : State) :
    Untouched lower state (context.set key false value state).2 := by
  refine Context.set_passage passage_untouched (fun _ _ _ state => untouched_log state _) ?_ ?_
    state
  · rintro scope - (hglobal | rfl) attempt state
    · cases hglobal
    · exact (untouched_log state _).trans (untouched_update hcontext _ _)
  · intro scope _ hglobal
    cases hglobal

/-- So does a local registration. -/
theorem register_untouched (name : String) (function : Function) (state : State) :
    Untouched lower state (context.register name function false state).2 := by
  refine Context.register_passage passage_untouched (fun _ _ => trivial) ?_ state
  rintro scope - (hglobal | rfl) key state
  · cases hglobal
  · exact untouched_update hcontext state _

end Untouched

/-! ### The induction -/

/-- The states of a run that began when the store had at least so many registries. -/
structure Local (lower : Nat) (state : State) : Prop where
  placed : lower ≤ state.store.size
  abides : state.Abides .localOnly

/-- A run that loses no registries goes on as one above the bound. -/
theorem Local.of_untouched {lower : Nat} {state final : State} (h : Local lower state)
    (huntouched : Untouched lower state final) (abides : final.Abides .localOnly) :
    Local lower final :=
  ⟨Nat.le_trans h.placed huntouched.grows, abides⟩

/-- An event is a part of such a run. -/
theorem Local.log {lower : Nat} {state : State} (h : Local lower state) (event : Event) :
    Local lower (state.log event) :=
  ⟨h.placed, h.abides.log event⟩

section Induction

variable (lower : Nat)

/-- Leaving the registries below a bound alone, as a judgement on local programs in contexts above
it. -/
@[reducible]
def locality : Discipline .localOnly where
  Index := Unit
  Holds run P := Along (Local lower) (Untouched lower) (run ()) P
  Hosts context := lower ≤ context.id
  Asks _ := True
  asks_around := fun _ _ _ => trivial
  holds_pure := along_pure Untouched.refl
  holds_bind := along_bind (R := Untouched lower) (fun _ _ _ => Untouched.trans)
  holds_consult := fun _ _ _ =>
    along_lift (fun state h => ⟨untouched_log state _, h.log _, state.store, rfl⟩)
  holds_note := fun _ => along_lift (fun state h => ⟨untouched_log state _, h.log _, trivial⟩)
  holds_openScope := by
    intro context marker _
    refine along_lift (fun state h => ?_)
    have hopened : Untouched lower state (context.openScope marker state).2 :=
      (untouched_extend state).trans (untouched_log state.extend _)
    exact ⟨hopened, h.of_untouched hopened (h.abides.extend.log _), h.placed⟩
  holds_require := by
    intro context key _
    refine along_lift (fun state h => ?_)
    have hread : Untouched lower state (context.require key state).2 :=
      Context.require_passage passage_untouched key context (fun _ _ => trivial) state
    exact ⟨hread, h.of_untouched hread (Context.require_abides h.abides key), fun _ _ => trivial⟩
  holds_set := by
    rintro context key _ value hosts rfl keeps
    refine along_lift (fun state h => ?_)
    have hset := set_untouched hosts key value state
    exact ⟨hset, h.of_untouched hset (Context.set_abides h.abides key false keeps), trivial⟩
  holds_register := by
    rintro context name function _ hosts rfl abides
    refine along_lift (fun state h => ?_)
    have hregister := register_untouched hosts name function state
    exact ⟨hregister,
      h.of_untouched hregister (Context.register_abides h.abides name abides false), trivial⟩

/-- Calls of local programs are local as well. -/
theorem locality_descends : (locality lower).Descends where
  fails := along_failure Untouched.refl
  overloads := by
    intro context key _ _ _ scope
    refine along_lift (fun state h => ?_)
    rw [Context.overloads_apply]
    exact ⟨.refl state, h, fun function hmem => (h.abides scope.id).overloads hmem⟩
  admits := by
    intro caller lookup function _
    refine along_grantCall (R := Untouched lower) (fun _ _ _ => Untouched.trans)
      (fun state h => ⟨untouched_log state _, h.log _⟩)
      (fun state _ h => ⟨untouched_log state _, h.log _⟩) (fun state h _ _ => ?_)
    have hopened : Untouched lower state (state.extend.log
        (.entered lookup caller (caller.calleeAt state.store function))) :=
      (untouched_extend state).trans (untouched_log state.extend _)
    exact ⟨hopened, h.of_untouched hopened (h.abides.extend.log _), h.placed⟩
  begins := fun _ _ => along_lift (fun state h => ⟨untouched_log state _, h.log _, trivial⟩)

end Induction

/-- A block without global writes and registrations, in a store without functions that make any,
leaves the variables and functions of every context that was there before it as they were.  Neither
the context it is run in and the policies there nor the way in which it ends play a part. -/
theorem Block.run_leaves_outer {block : Block}
    (hblock : ∀ action ∈ block.actions, action.Abides .localOnly) {state : State}
    (hstate : state.Abides .localOnly) (fuel : Nat) (context : Context) :
    ∀ other : Context, other.id < state.store.size →
      (((Request.block block).serve (perform fuel) context state).2.store.registry
        other.id).locals = (state.store.registry other.id).locals ∧
      (((Request.block block).serve (perform fuel) context state).2.store.registry
        other.id).functions = (state.store.registry other.id).functions := by
  -- the statements run in a scope at the first place that was not given out before
  let lower := state.store.size
  let scope := context.scopeAt lower block.marker
  let opened := state.extend.log (.opened scope)
  obtain ⟨-, performs⟩ := (locality_descends lower).perform_holds fuel
  have hosts : (locality lower).Hosts scope := Nat.le_refl lower
  have hactions : (locality lower).Holds
      (fun _ => runBlockIn (perform fuel) scope block) Terms.localOnly.Answers :=
    Discipline.holds_runActions (fun action hmem => performs.act hosts (hblock action hmem)) trivial
  have hextended : Untouched lower state opened :=
    (untouched_extend state).trans (untouched_log state.extend _)
  have hlocal : Local lower opened := ⟨hextended.grows, hstate.extend.log _⟩
  have hrun : Untouched lower state ((runBlockIn (perform fuel) scope block) opened).2 :=
    hextended.trans (hactions opened hlocal).1
  intro other hother
  have hsame := hrun.same other.id hother
  exact ⟨congrArg Registry.locals hsame, congrArg Registry.functions hsame⟩

/-- A function that writes over its argument, declares itself below, and reads a variable that is
not there. -/
def busy : Function :=
  ⟨0, "f", [.mandatory "x" (.lateBound "Object")], false, .script ⟨defaultMarker,
    [.assign "x" false (.int 2),
      .declare "f" ⟨1, "f", [], false, .native (fun _ => .set "x" false (.int 4)
        (fun _ => .done (.success .null)))⟩ false,
      .block ⟨defaultMarker, [.assign "x" false (.int 3), .evaluate (.call "f" [])]⟩,
      .evaluate (.reference "y")]⟩⟩

def busyState : State where
  store := ⟨#[⟨(∅ : Table _).insert "x" (.int 7), (∅ : Table _).insert "f" [busy]⟩]⟩

/-- Shadows the variable and calls the function. -/
def busyBlock : Block :=
  ⟨defaultMarker,
    [.assign "x" false (.int 1), .evaluate (.call "f" [.positional (.reference "x")])]⟩

/-- The function is local. -/
theorem busy_abides : busy.Abides .localOnly := by
  refine .intro (fun _ _ _ _ => trivial) (.script ?_)
  intro action hmem
  simp only [List.mem_cons, List.not_mem_nil, or_false] at hmem
  rcases hmem with rfl | rfl | rfl | rfl
  · exact .assign "x" _ rfl
  · refine .declare "f" (.intro (fun _ _ _ _ => trivial) (.native fun _ _ => ?_)) rfl
    exact .set "x" rfl trivial (fun _ => .done (fun _ _ => trivial))
  · refine .block (fun inner hinner => ?_)
    simp only [List.mem_cons, List.not_mem_nil, or_false] at hinner
    rcases hinner with rfl | rfl
    · exact .assign "x" _ rfl
    · exact .evaluate _
  · exact .evaluate _

/-- The block opens four contexts and fails in the end, and the root has its variable and its
function as before. -/
theorem run_leaves_outer_busy :
    let root := Context.root ⟨0, .global, .permissive, {}⟩
    let result := (Request.block busyBlock).serve (perform 20) root busyState
    (∀ action ∈ busyBlock.actions, action.Abides .localOnly) ∧ busyState.Abides .localOnly ∧
      (result.1.bind Outcome.failure?).map Failure.code = some .undeclaredVariable ∧
      result.2.store.size = 5 ∧
      ∀ other : Context, other.id < busyState.store.size →
        (result.2.store.registry other.id).locals = (busyState.store.registry other.id).locals ∧
        (result.2.store.registry other.id).functions =
          (busyState.store.registry other.id).functions := by
  intro root result
  have hblock : ∀ action ∈ busyBlock.actions, action.Abides .localOnly := by
    intro action hmem
    simp only [busyBlock, List.mem_cons, List.not_mem_nil, or_false] at hmem
    rcases hmem with rfl | rfl
    · exact .assign "x" _ rfl
    · exact .evaluate _
  have hstate : busyState.Abides .localOnly := by
    intro id
    cases id with
    | zero =>
      refine ⟨fun _ _ => trivial, Table.all_empty.insert "f" (fun function hmem => ?_)⟩
      rw [List.mem_singleton.mp hmem]
      exact busy_abides
    | succ id => exact Registry.abides_empty
  exact ⟨hblock, hstate, by decide +kernel, by decide +kernel,
    Block.run_leaves_outer hblock hstate 20 root⟩

end GuardedScript

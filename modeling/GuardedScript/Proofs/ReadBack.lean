import GuardedScript.Proofs.Landing

/-!
# Reading what was written

Reads go outward and writes come inward along the same chain of contexts, under different checks.  A
write that succeeds is read back from every context between the writer and the place where it
landed, unless a policy on the way refuses the read.  No other read notices the write: neither those
of other variables, nor after a local write those in contexts outside of the writer, nor any read
after a write that failed (`Context.get_after_set`).

Other variables may be read under policies that do see the write.  That they do not answer otherwise
because of it has to be said of them (`Context.ReadsAlike`).  Policies that do not look at what is
written are like this (`Context.Ignores.readsAlike`), and one that does look is not
(`get_after_set_sighted`).
-/

set_option autoImplicit false

namespace GuardedScript

namespace Context

variable {key : String} {value : Value} {context reader landing : Context}
  {inner path : List Context} {state final : State}

/-! ### Reads along a chain -/

/-- No policy refuses to read a variable in a context, or to go on from there to its parent. -/
structure Passes (key : String) (store : Store) (scope : Context) : Prop where
  get : scope.Permits store (.getVariable key)
  ask : scope.Permits store (.askParentForVariable key)

/-- A context is one of a chain if the chain ends with the contexts around it. -/
theorem exists_append_of_mem_ancestry (h : reader ∈ context.ancestry) :
    ∃ before, context.ancestry = before ++ reader.ancestry := by
  induction context with
  | root frame =>
    rw [List.mem_singleton.mp h]
    exact ⟨[], rfl⟩
  | nested frame parent ih =>
    rcases List.mem_cons.mp h with rfl | houter
    · exact ⟨[], rfl⟩
    · obtain ⟨before, hbefore⟩ := ih houter
      exact ⟨nested frame parent :: before, congrArg _ hbefore⟩

/-- A read that is refused comes to no value. -/
theorem not_get_of_refused {denial : Failure}
    (h : context.decision state.store (.getVariable key) = .failure denial) :
    (context.get key state).1 ≠ .success value := by
  rw [get_eq, guarded_of_refused _ _ _ h]
  exact fun heq => by cases heq

/-- A variable that the context itself binds is read there if it may be read at all. -/
theorem get_eq_success_iff_of_bound
    (bound : (state.store.registry context.id).locals.get? key = some value) :
    (context.get key state).1 = .success value ↔
      context.Permits state.store (.getVariable key) := by
  rcases context.refused_or_permits state.store (.getVariable key) with ⟨denial, hdenial⟩ | permits
  · exact iff_of_false (not_get_of_refused hdenial) (fun permits => permits denial hdenial)
  · rw [get_of_permits permits, bound]
    exact iff_of_true rfl permits

/-- A variable that the context itself does not bind is read in its parent, if it may be read here
and the parent may be asked. -/
theorem get_nested_eq_success_iff {frame : Frame} {parent : Context}
    (unbound : (state.store.registry (nested frame parent).id).locals.get? key = none) :
    ((nested frame parent).get key state).1 = .success value ↔
      (nested frame parent).Passes key state.store ∧
        (parent.get key
          ((state.asked (nested frame parent) (.getVariable key)).asked (nested frame parent)
            (.askParentForVariable key))).1 = .success value := by
  rcases (nested frame parent).refused_or_permits state.store (.getVariable key) with
    ⟨denial, hdenial⟩ | permits
  · refine iff_of_false (not_get_of_refused hdenial) ?_
    exact fun h => h.1.get denial hdenial
  rw [get_of_permits permits, unbound]
  simp only [getBeyond]
  let asked := state.asked (nested frame parent) (.getVariable key)
  rcases (nested frame parent).refused_or_permits asked.store (.askParentForVariable key) with
    ⟨denial, hdenial⟩ | asks
  · rw [guarded_of_refused _ _ asked hdenial]
    refine iff_of_false (fun heq => by cases heq) ?_
    exact fun h => h.1.ask denial hdenial
  · rw [guarded_of_permits _ _ asked asks]
    exact ⟨fun h => ⟨⟨permits, asks⟩, h⟩, And.right⟩

/-- A variable is read across contexts that do not bind it exactly if all of them let the read
pass. -/
theorem get_eq_success_iff (chain : reader.ancestry = path ++ landing.ancestry)
    (bound : (state.store.registry landing.id).locals.get? key = some value)
    (unbound : ∀ scope ∈ path, (state.store.registry scope.id).locals.get? key = none) :
    (reader.get key state).1 = .success value ↔
      (∀ scope ∈ path, scope.Passes key state.store) ∧
        landing.Permits state.store (.getVariable key) := by
  induction path generalizing reader state with
  | nil =>
    obtain rfl := ancestry_injective chain
    rw [get_eq_success_iff_of_bound bound]
    exact ⟨fun permits => ⟨fun _ hmem => absurd hmem List.not_mem_nil, permits⟩, And.right⟩
  | cons scope path ih =>
    cases reader with
    | root frame =>
      rw [ancestry_eq_cons landing] at chain
      simp [ancestry] at chain
    | nested frame parent =>
      obtain ⟨rfl, hchain⟩ := List.cons.inj chain
      obtain ⟨hhere, hbeyond⟩ := List.forall_mem_cons.mp unbound
      rw [get_nested_eq_success_iff hhere, List.forall_mem_cons, and_assoc]
      exact and_congr_right (fun _ => ih hchain bound hbeyond)

/-! ### Reads that do not notice a write -/

/-- The policies of a context and of those around it say the same in two stores to reading a
variable. -/
def ReadsAlike (key : String) (left right : Store) (reader : Context) : Prop :=
  ∀ scope ∈ reader.ancestry,
    scope.decision left (.getVariable key) = scope.decision right (.getVariable key) ∧
      scope.decision left (.askParentForVariable key) =
        scope.decision right (.askParentForVariable key)

/-- Policies that ignore the difference between two states let variables be read alike in them. -/
theorem Ignores.readsAlike {R : State → State → Prop} (ignores : reader.Ignores R)
    (related : R state final) (key : String) : reader.ReadsAlike key state.store final.store :=
  fun _ hscope => ⟨(ignores.of_mem hscope).decision_eq related _,
    (ignores.of_mem hscope).decision_eq related _⟩

/-- Policies see no difference where the registries of the reader and of those around it are the
same. -/
theorem readsAlike_of_registry_eq {left right : Store} (key : String)
    (h : ∀ scope ∈ reader.ancestry, right.registry scope.id = left.registry scope.id) :
    reader.ReadsAlike key left right := by
  intro scope hscope
  have hsite : scope.site left = scope.site right := by
    refine site_congr (List.map_congr_left (fun outer houter => ?_))
    exact (h outer (mem_ancestry_trans hscope houter)).symm
  simp only [decision, hsite, and_self]

/-- A read comes to the same if the policies say the same to it, the context itself binds the same,
and what is beyond comes to the same. -/
theorem get_congr
    (hget : context.decision state.store (.getVariable key) =
      context.decision final.store (.getVariable key))
    (hlocals : (final.store.registry context.id).locals.get? key =
      (state.store.registry context.id).locals.get? key)
    (hbeyond : (context.getBeyond key (final.asked context (.getVariable key))).1 =
      (context.getBeyond key (state.asked context (.getVariable key))).1) :
    (context.get key final).1 = (context.get key state).1 := by
  rcases context.refused_or_permits state.store (.getVariable key) with ⟨denial, refused⟩ | permits
  · have refused' := hget.symm.trans refused
    rw [get_eq, guarded_of_refused _ _ _ refused, guarded_of_refused _ _ _ refused']
    rfl
  · have permits' : context.Permits final.store (.getVariable key) :=
      fun denial heq => permits denial (hget.trans heq)
    rw [get_of_permits permits, get_of_permits permits', hlocals]
    cases (state.store.registry context.id).locals.get? key with
    | some value => rfl
    | none => exact hbeyond

/-- A read comes to the same if the policies on its way say the same to it and all contexts there
bind the same. -/
theorem get_eq_of_readsAlike (alike : reader.ReadsAlike key state.store final.store)
    (hlocals : ∀ scope ∈ reader.ancestry, (final.store.registry scope.id).locals.get? key =
      (state.store.registry scope.id).locals.get? key) :
    (reader.get key final).1 = (reader.get key state).1 := by
  induction reader generalizing state final with
  | root frame =>
    exact get_congr (alike _ (mem_ancestry_self _)).1 (hlocals _ (mem_ancestry_self _)) rfl
  | nested frame parent ih =>
    obtain ⟨hget, hask⟩ := alike _ (mem_ancestry_self _)
    refine get_congr hget (hlocals _ (mem_ancestry_self _)) ?_
    let asked := state.asked (nested frame parent) (.getVariable key)
    let asked' := final.asked (nested frame parent) (.getVariable key)
    simp only [getBeyond]
    rcases (nested frame parent).refused_or_permits asked.store (.askParentForVariable key) with
      ⟨denial, refused⟩ | permits
    · rw [guarded_of_refused _ _ asked refused, guarded_of_refused _ _ asked'
        (hask.symm.trans refused)]
      rfl
    · rw [guarded_of_permits _ _ asked permits, guarded_of_permits _ _ asked'
        (fun denial heq => permits denial (hask.trans heq))]
      exact ih (fun scope hscope => alike scope (mem_ancestry_nested hscope))
        (fun scope hscope => hlocals scope (mem_ancestry_nested hscope))

/-- What was written is read in the contexts between. -/
theorem Landed.get_eq_success_iff (landed : Landed key value inner landing state final)
    (chain : context.ancestry = inner ++ landing.ancestry) (hreader : reader ∈ context.ancestry)
    (between : reader.ancestry = path ++ landing.ancestry) :
    (reader.get key final).1 = .success value ↔
      (∀ scope ∈ path, scope.Passes key final.store) ∧
        landing.Permits final.store (.getVariable key) := by
  obtain ⟨before, hbefore⟩ := exists_append_of_mem_ancestry hreader
  have hinner : inner = before ++ path := by
    rw [hbefore, between, ← List.append_assoc] at chain
    exact (List.append_cancel_right chain).symm
  have hcleared : ∀ scope ∈ path, (final.store.registry scope.id).locals.get? key = none := by
    intro scope hscope
    refine landed.cleared scope ?_
    rw [hinner]
    exact List.mem_append_right _ hscope
  exact Context.get_eq_success_iff between landed.bound hcleared

/-- A write changes bindings of one variable only, and if it is local then in one context only. -/
theorem exists_alike_set (lodged : context.Lodged state.store) (key : String) (global : Bool)
    (value : Value) :
    ∃ scopes, (global = false → scopes = [context]) ∧
      state.Alike (.binding key scopes) (context.set key global value state).2 := by
  rcases set_lands_or_fails lodged key global value with
    ⟨inner, landing, chain, hlocal, -, -, hlanded⟩ | ⟨-, hstore, hnext⟩
  · refine ⟨landing :: inner, ?_, hlanded.alike⟩
    intro hglobal
    obtain rfl := hlocal hglobal
    rw [ancestry_injective chain]
  · exact ⟨[context], fun _ => rfl, .of_store_eq hstore hnext⟩

end Context

/-- Writes are read back, and nothing else moves.  After a write that succeeds, each context from
the writer to the place where the write landed reads what was written, exactly if no policy from
there to that place refuses the read.  All other variables are read as before from every context
under whose policies the write makes no difference to reading them; after a local write the variable
itself is read as before from contexts that are neither the writer nor inside of it; and after a
write that fails all reads are as before. -/
theorem Context.get_after_set {context : Context} {state : State}
    (lodged : context.Lodged state.store) (key : String) (global : Bool) (value : Value) :
    let result := context.set key global value state
    (result.1 = .success () →
      ∃ (inner : List Context) (landing : Context),
        context.ancestry = inner ++ landing.ancestry ∧ (global = false → inner = []) ∧
          (global = true → landing.Admits key value state.store) ∧
          Landed key value inner landing state result.2 ∧
          ∀ reader ∈ context.ancestry, ∀ path, reader.ancestry = path ++ landing.ancestry →
            ((reader.get key result.2).1 = .success value ↔
              (∀ scope ∈ path, scope.Passes key result.2.store) ∧
                landing.Permits result.2.store (.getVariable key))) ∧
      (∀ other, other ≠ key → ∀ reader : Context,
        reader.ReadsAlike other state.store result.2.store →
        (reader.get other result.2).1 = (reader.get other state).1) ∧
      (global = false → ∀ reader : Context, (∀ scope ∈ reader.ancestry, scope.id ≠ context.id) →
        (reader.get key result.2).1 = (reader.get key state).1) ∧
      (∀ reason, result.1 = .failure reason → ∀ (name : String) (reader : Context),
        (reader.get name result.2).1 = (reader.get name state).1) := by
  intro result
  obtain ⟨scopes, hscopes, halike⟩ := exists_alike_set lodged key global value
  refine ⟨?_, ?_, ?_, ?_⟩
  · intro hsuccess
    rcases set_lands_or_fails lodged key global value with
      ⟨inner, landing, chain, hlocal, hglobal, -, hlanded⟩ | ⟨⟨reason, hfailure⟩, -⟩
    · refine ⟨inner, landing, chain, hlocal, hglobal, hlanded, ?_⟩
      exact fun reader hreader path between => hlanded.get_eq_success_iff chain hreader between
    · cases hfailure.symm.trans hsuccess
  · intro other hother reader alike
    refine get_eq_of_readsAlike alike (fun scope _ => ?_)
    exact ((halike.registries scope.id).locals other (fun hidden => hother hidden.1)).symm
  · intro hlocal reader houtside
    obtain rfl := hscopes hlocal
    have hsame : ∀ scope ∈ reader.ancestry,
        result.2.store.registry scope.id = state.store.registry scope.id := by
      intro scope hscope
      refine (halike.registry_eq ?_ (fun _ hidden => hidden)).symm
      rintro name ⟨-, writer, hwriter, hid⟩
      rw [List.mem_singleton.mp hwriter] at hid
      exact houtside scope hscope hid.symm
    exact get_eq_of_readsAlike (readsAlike_of_registry_eq key hsame)
      (fun scope hscope => by rw [hsame scope hscope])
  · intro reason hfailure name reader
    rcases set_lands_or_fails lodged key global value with
      ⟨-, -, -, -, -, hsuccess, -⟩ | ⟨-, hstore, -⟩
    · cases hsuccess.symm.trans hfailure
    · have hsame : ∀ scope ∈ reader.ancestry,
          result.2.store.registry scope.id = state.store.registry scope.id :=
        fun _ _ => by rw [hstore]
      exact get_eq_of_readsAlike (readsAlike_of_registry_eq name hsame)
        (fun scope hscope => by rw [hsame scope hscope])

/-- A write that the root refuses is read back from the innermost context, where it has replaced
what was bound; the root keeps its own binding. -/
theorem get_after_set_below_fixed :
    let result := shadowing.set "k" true (.int 7) boundTwice
    shadowing.Lodged boundTwice.store ∧ result.1 = .success () ∧
      (∀ scope ∈ shadowing.ancestry, scope.Passes "k" result.2.store) ∧
      shadowing.Blind ∧ shadowing.ReadsAlike "l" boundTwice.store result.2.store ∧
      (shadowing.get "k" boundTwice).1 = .success (.int 1) ∧
      (shadowing.get "k" result.2).1 = .success (.int 7) ∧
      (fixedRoot.get "k" result.2).1 = .success (.int 0) ∧
      (shadowing.get "l" result.2).1 = (shadowing.get "l" boundTwice).1 := by
  intro result
  have lodged : shadowing.Lodged boundTwice.store := ⟨by decide, by decide⟩
  have silent : ∀ {scope : Context} {store : Store} {check : Check},
      scope.decision store check = .empty → scope.Permits store check := by
    intro scope store check hempty reason hrefused
    cases hempty.symm.trans hrefused
  -- none of the three policies looks at anything to answer a read
  have passes : ∀ store, ∀ scope ∈ shadowing.ancestry, scope.Passes "k" store := by
    intro store scope hscope
    simp only [shadowing, belowFixed, fixedRoot, Context.ancestry, List.mem_cons,
      List.not_mem_nil, or_false] at hscope
    rcases hscope with rfl | rfl | rfl
    all_goals exact ⟨silent rfl, silent rfl⟩
  have blind : shadowing.Blind :=
    List.forall_mem_cons.mpr ⟨.permissive, List.forall_mem_cons.mpr ⟨.permissive,
      List.forall_mem_singleton.mpr (.custom "fixed" (fun _ _ _ => rfl) (fun _ _ _ => rfl)
        (fun _ _ _ heq => by cases heq))⟩⟩
  have alike : shadowing.ReadsAlike "l" boundTwice.store result.2.store :=
    Context.Ignores.readsAlike blind trivial "l"
  have hafter := Context.get_after_set lodged "k" true (.int 7)
  obtain ⟨inner, landing, chain, -, -, -, hread⟩ := hafter.1 rfl
  have hreadBack : (shadowing.get "k" result.2).1 = .success (.int 7) := by
    have hpasses := passes result.2.store
    rw [chain] at hpasses
    obtain ⟨hinner, hlanding⟩ := List.forall_mem_append.mp hpasses
    exact (hread shadowing shadowing.mem_ancestry_self inner chain).mpr
      ⟨hinner, (hlanding landing landing.mem_ancestry_self).get⟩
  have hbefore : (shadowing.get "k" boundTwice).1 = .success (.int 1) :=
    (Context.get_eq_success_iff_of_bound rfl).mpr (passes _ _ shadowing.mem_ancestry_self).get
  have hroot : (fixedRoot.get "k" result.2).1 = .success (.int 0) :=
    (Context.get_eq_success_iff_of_bound rfl).mpr (silent rfl)
  exact ⟨lodged, rfl, passes _, blind, alike, hbefore, hreadBack, hroot,
    hafter.2.1 "l" (by decide) shadowing alike⟩

/-- Refuses to read the variable `secret` where `locked` is bound, and nothing else. -/
def sightedPolicy : Policy :=
  .custom "sighted"
    (fun site check =>
      match check with
      | .getVariable "secret" =>
        if site.registries.get.any (fun registry => registry.locals.contains "locked") then
          .failure (.accessDenied "locked")
        else .empty
      | _ => .empty)
    (fun _ _ => .empty)

def sightedRoot : Context :=
  .root ⟨0, .global, sightedPolicy, {}⟩

def secretState : State where
  store := ⟨#[⟨(∅ : Table _).insert "secret" (.int 5), ∅⟩]⟩

/-- Under a policy that looks at what is bound, a write does make a difference to reading another
variable. -/
theorem get_after_set_sighted :
    let result := sightedRoot.set "locked" false (.boolean true) secretState
    result.1 = .success () ∧
      ¬ sightedRoot.ReadsAlike "secret" secretState.store result.2.store ∧
      (sightedRoot.get "secret" secretState).1 = .success (.int 5) ∧
      (sightedRoot.get "secret" result.2).1 ≠ .success (.int 5) := by
  intro result
  have refused : sightedRoot.decision result.2.store (.getVariable "secret") =
      .failure (.accessDenied "locked") := rfl
  have permitted : sightedRoot.decision secretState.store (.getVariable "secret") = .empty := rfl
  have hbefore : (sightedRoot.get "secret" secretState).1 = .success (.int 5) := by
    refine (Context.get_eq_success_iff_of_bound rfl).mpr (fun reason heq => ?_)
    cases permitted.symm.trans heq
  refine ⟨rfl, fun alike => ?_, hbefore, Context.not_get_of_refused refused⟩
  obtain ⟨hget, -⟩ := alike sightedRoot sightedRoot.mem_ancestry_self
  cases hget.trans refused

end GuardedScript

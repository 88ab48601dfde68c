import GuardedScript.Proofs.Discipline
import GuardedScript.Proofs.Resolution

/-!
# Every call is mediated

No body runs without a search that found its function, and no search calls a function without having
asked every policy on the way.  The trace of a run shows this.  `Orderly` describes the traces in
which calls are made only inside searches, right after the questions that grant them, and bodies
begin only right after their contexts were opened and do all that they do from inside of these.  All
runs, also those that run out of fuel, have such traces (`Request.serve_mediated`).

Traces are read with the latest event first.  The answers in them are those of the policies in the
stores in which they were asked; all questions for one call are asked in one store.
-/

set_option autoImplicit false

namespace GuardedScript

/-- The context that an event opens. -/
def Event.created? : Event → Option Context
  | opened scope => some scope
  | entered _ _ callee => some callee
  | _ => none

/-- Whether a context can be seen from inside of another one: it is around a context inside of
that. -/
def Context.SeenFrom (context home : Context) : Prop :=
  ∃ inner : Context, home ∈ inner.ancestry ∧ context ∈ inner.ancestry

/-- Whether an event comes from what runs in a context.  Questions are asked on behalf of contexts
inside of it, of their policies and of those around them; calls are made and contexts are opened
inside of it. -/
def Event.Inside (home : Context) : Event → Prop
  | checked context _ _ => context.SeenFrom home
  | derived context _ _ => home ∈ context.ancestry
  | opened scope => home ∈ scope.ancestry
  | entered _ caller callee => home ∈ caller.ancestry ∧ home ∈ callee.ancestry
  | began context _ => home ∈ context.ancestry
  | noted _ => True

/-- Whether the function of a call that was looked up stands in the registry of its scope, under the
key and at the place of the look-up. -/
def Event.Listed (store : Store) : Event → Prop
  | entered (some lookup) _ callee => ∃ function, callee.kind = .call function ∧
      ((store.registry lookup.scope.id).overloads lookup.key)[lookup.position]? = some function
  | _ => True

/-- The contexts that some events open are new: their places are between two sizes of the store, and
each is opened at a place behind those of the earlier ones. -/
structure Fresh (lower upper : Nat) (events : List Event) : Prop where
  grows : lower ≤ upper
  bounds : ∀ context ∈ events.filterMap Event.created?, lower ≤ context.id ∧ context.id < upper
  ordered : (events.filterMap Event.created?).Pairwise
    (fun later earlier => earlier.id < later.id)

/-- A search that is under way: for which key, on behalf of which context, and how far it has
come. -/
structure Quest where
  key : String
  caller : Context
  scope : Context

/-- A call that a search may make in a store, and the context in which the body runs. -/
structure Quest.Grants (quest : Quest) (store : Store) (function : Function) (callee : Context) :
    Prop where
  tried : quest.scope.Permits store (.tryFunction quest.key function)
  run : quest.caller.Permits store (.runFunction function)
  derived : ∀ reason, quest.caller.derivation store function ≠ .failure reason
  parent : callee.parent? = some quest.caller
  kind : callee.kind = .call function
  depth : callee.depth = quest.caller.depth + 1
  options : callee.options = quest.caller.options
  policy : callee.policy =
    (quest.caller.derivation store function).success?.getD quest.caller.policy

/-- The questions that grant a call in a store, and the opening of its context. -/
def Quest.entry (quest : Quest) (store : Store) (position : Nat) (function : Function)
    (callee : Context) : List Event :=
  [.entered (some ⟨quest.key, quest.scope, position⟩) quest.caller callee,
    .derived quest.caller function (quest.caller.derivation store function),
    .checked quest.caller (.runFunction function)
      (quest.caller.decision store (.runFunction function)),
    .checked quest.scope (.tryFunction quest.key function)
      (quest.scope.decision store (.tryFunction quest.key function))]

/-- The events of a run in which every call is mediated, or those of a search under way. -/
inductive Orderly : Option Quest → List Event → Prop
  | nil : Orderly none []
  | checked {events : List Event} (context : Context) (check : Check) (answer : Decision)
      (rest : Orderly none events) : Orderly none (.checked context check answer :: events)
  | opened {events : List Event} (scope : Context) (rest : Orderly none events) :
      Orderly none (.opened scope :: events)
  | noted {events : List Event} (line : String) (rest : Orderly none events) :
      Orderly none (.noted line :: events)
  | resolved {quest : Quest} {resolution events : List Event}
      (search : Orderly (some quest) resolution) (rest : Orderly none events) :
      Orderly none (resolution ++ events)
  /-- A search starts with the question whether functions may be looked for. -/
  | start {key : String} {caller : Context} {store : Store}
      (asked : caller.Permits store (.askForFunction key)) :
      Orderly (some ⟨key, caller, caller⟩)
        [.checked caller (.askForFunction key) (caller.decision store (.askForFunction key))]
  /-- It goes outward with a permission to leave and one to look further. -/
  | outward {key : String} {caller : Context} {frame : Frame} {parent : Context} {store : Store}
      {events : List Event} (search : Orderly (some ⟨key, caller, .nested frame parent⟩) events)
      (left : (Context.nested frame parent).Permits store (.askParentForFunction key))
      (asked : parent.Permits store (.askForFunction key)) :
      Orderly (some ⟨key, caller, parent⟩)
        (.checked parent (.askForFunction key) (parent.decision store (.askForFunction key)) ::
          .checked (.nested frame parent) (.askParentForFunction key)
            ((Context.nested frame parent).decision store (.askParentForFunction key)) :: events)
  /-- Questions may remain without a call. -/
  | asked {quest : Quest} {events : List Event} (context : Context) (check : Check)
      (answer : Decision) (search : Orderly (some quest) events) :
      Orderly (some quest) (.checked context check answer :: events)
  | derived {quest : Quest} {events : List Event} (context : Context) (function : Function)
      (answer : Outcome Policy) (search : Orderly (some quest) events) :
      Orderly (some quest) (.derived context function answer :: events)
  /-- A call that is granted may have no fuel left to begin with. -/
  | entered {quest : Quest} {events : List Event} {store : Store} {function : Function}
      {callee : Context} (position : Nat) (granted : quest.Grants store function callee)
      (search : Orderly (some quest) events) :
      Orderly (some quest) (quest.entry store position function callee ++ events)
  /-- The body of a function that is called begins in the context opened for it, and stays there. -/
  | ran {quest : Quest} {events body : List Event} {store : Store} {function : Function}
      {callee : Context} (position : Nat) (granted : quest.Grants store function callee)
      (inner : Orderly none body) (inside : ∀ event ∈ body, event.Inside callee)
      (search : Orderly (some quest) events) :
      Orderly (some quest)
        (body ++ .began callee function :: (quest.entry store position function callee ++ events))

/-! ### What an orderly trace says about each call -/

/-- A search has come from the caller to its scope on an open path, and among the events are all
questions of the way: whether functions may be looked for in the contexts of the path, and whether
the parent may be asked in those that it leaves. -/
def Quest.Approached (quest : Quest) (events : List Event) : Prop :=
  ∃ entries, OpenPath quest.key quest.caller entries ∧
    (entries.map Prod.fst).getLast? = some quest.scope ∧
    (∀ entry ∈ entries, .checked entry.1 (.askForFunction quest.key)
      (entry.1.decision entry.2.store (.askForFunction quest.key)) ∈ events) ∧
    ∀ step ∈ entries.zip entries.tail, .checked step.1.1 (.askParentForFunction quest.key)
      (step.1.1.decision step.2.2.store (.askParentForFunction quest.key)) ∈ events

/-- What is among some events is among more of them. -/
theorem Quest.Approached.mono {quest : Quest} {events more : List Event}
    (h : quest.Approached events) (hsubset : events ⊆ more) : quest.Approached more := by
  obtain ⟨entries, hopen, hlast, hasked, hleft⟩ := h
  exact ⟨entries, hopen, hlast, fun entry hentry => hsubset (hasked entry hentry),
    fun step hstep => hsubset (hleft step hstep)⟩

/-- A call is preceded by the questions that grant it and by those of the way from the caller to the
scope that has the function, none of which was refused. -/
structure Mediated (lookup : Lookup) (caller : Context) (function : Function) (callee : Context)
    (older : List Event) : Prop where
  granted : ∃ store, Quest.Grants ⟨lookup.key, caller, lookup.scope⟩ store function callee ∧
    ∃ rest, older = (Quest.entry ⟨lookup.key, caller, lookup.scope⟩ store lookup.position function
      callee).tail ++ rest
  approached : Quest.Approached ⟨lookup.key, caller, lookup.scope⟩ older

/-- The events before an event justify it. -/
def Justified : Event → List Event → Prop
  | .entered lookup caller callee, older =>
    ∃ found function, lookup = some found ∧ Mediated found caller function callee older
  | .began callee function, older =>
    callee.kind = .call function ∧
      ∃ lookup caller rest, older = .entered (some lookup) caller callee :: rest
  | _, _ => True

/-- A call stays mediated whatever came before. -/
theorem Mediated.append {lookup : Lookup} {caller callee : Context} {function : Function}
    {older : List Event} (h : Mediated lookup caller function callee older) (more : List Event) :
    Mediated lookup caller function callee (older ++ more) := by
  obtain ⟨store, granted, rest, hrest⟩ := h.granted
  refine ⟨⟨store, granted, rest ++ more, ?_⟩, h.approached.mono (List.subset_append_left _ _)⟩
  rw [hrest, List.append_assoc]

/-- An event stays justified whatever came before. -/
theorem Justified.append {event : Event} {older : List Event} (h : Justified event older)
    (more : List Event) : Justified event (older ++ more) := by
  cases event with
  | entered lookup caller callee =>
    obtain ⟨found, function, hfound, hmediated⟩ := h
    exact ⟨found, function, hfound, hmediated.append more⟩
  | began callee function =>
    obtain ⟨hkind, lookup, caller, rest, hrest⟩ := h
    exact ⟨hkind, lookup, caller, rest ++ more, by rw [hrest]; rfl⟩
  | checked context check answer => trivial
  | derived context function answer => trivial
  | opened scope => trivial
  | noted line => trivial

/-- Every event is justified by the events before it. -/
def AllJustified : List Event → Prop
  | [] => True
  | event :: older => Justified event older ∧ AllJustified older

/-- Two parts of a trace whose events are justified make up such a trace. -/
theorem AllJustified.append {newer older : List Event} (hnewer : AllJustified newer)
    (holder : AllJustified older) : AllJustified (newer ++ older) := by
  induction newer with
  | nil => exact holder
  | cons event newer ih => exact ⟨hnewer.1.append older, ih hnewer.2⟩

/-- Every event in a justified trace is justified by those before it. -/
theorem AllJustified.split {events newer older : List Event} {event : Event}
    (h : AllJustified events) (hsplit : events = newer ++ event :: older) :
    Justified event older := by
  subst hsplit
  induction newer with
  | nil => exact h.1
  | cons first newer ih => exact ih h.2

/-- A list whose first components end with a context ends with that context and some state. -/
theorem exists_concat_of_getLast?_map {entries : List (Context × State)} {scope : Context}
    (h : (entries.map Prod.fst).getLast? = some scope) :
    ∃ inner entered, entries = inner ++ [(scope, entered)] := by
  rw [List.getLast?_map] at h
  obtain ⟨⟨last, entered⟩, hlast, rfl⟩ := Option.map_eq_some_iff.mp h
  obtain ⟨inner, rfl⟩ := List.getLast?_eq_some_iff.mp hlast
  exact ⟨inner, entered, rfl⟩

/-- With one more entry a path has one more step, from the last entry to the new one. -/
theorem mem_zip_tail_concat {inner : List (Context × State)} {last next : Context × State}
    {step : (Context × State) × (Context × State)}
    (h : step ∈ ((inner ++ [last]) ++ [next]).zip ((inner ++ [last]) ++ [next]).tail) :
    step ∈ (inner ++ [last]).zip (inner ++ [last]).tail ∨ step = (last, next) := by
  induction inner with
  | nil => exact .inr (List.mem_singleton.mp h)
  | cons first inner ih =>
    cases inner with
    | nil => simpa [or_comm] using h
    | cons second inner =>
      rcases List.mem_cons.mp h with rfl | hrest
      · exact .inl (List.mem_cons_self ..)
      · exact (ih hrest).imp_left (List.mem_cons_of_mem _)

/-- A path outward that ends in a nested context goes on with the parent. -/
theorem Context.append_parent_prefix_ancestry {context parent : Context} {frame : Frame}
    {scopes : List Context} (h : scopes <+: context.ancestry)
    (hlast : scopes.getLast? = some (nested frame parent)) :
    scopes ++ [parent] <+: context.ancestry := by
  induction context generalizing scopes with
  | root innermost =>
    cases scopes with
    | nil => cases hlast
    | cons first rest =>
      obtain ⟨rfl, hrest⟩ := List.cons_prefix_cons.mp h
      obtain rfl := List.prefix_nil.mp hrest
      cases hlast
  | nested innermost outer ih =>
    cases scopes with
    | nil => cases hlast
    | cons first rest =>
      obtain ⟨rfl, hrest⟩ := List.cons_prefix_cons.mp h
      refine List.cons_prefix_cons.mpr ⟨rfl, ?_⟩
      cases rest with
      | nil =>
        cases hlast
        cases parent with
        | root frame => exact List.prefix_rfl
        | nested frame parent => exact List.cons_prefix_cons.mpr ⟨rfl, List.nil_prefix⟩
      | cons second rest =>
        rw [List.getLast?_cons_cons] at hlast
        exact ih hrest hlast

/-- A path that ends in a nested context goes on with the parent, if the policies let it. -/
theorem OpenPath.concat {key : String} {start parent : Context} {frame : Frame} {left : State}
    {entries : List (Context × State)} (path : OpenPath key start entries)
    (hlast : (entries.map Prod.fst).getLast? = some (.nested frame parent))
    (permitted : (Context.nested frame parent).Permits left.store (.askParentForFunction key))
    (asked : parent.Permits left.store (.askForFunction key)) :
    OpenPath key start (entries ++ [(parent, left)]) where
  outward := by
    rw [List.map_append]
    exact Context.append_parent_prefix_ancestry path.outward hlast
  asked := List.forall_mem_append.mpr ⟨path.asked, List.forall_mem_singleton.mpr asked⟩
  left := by
    obtain ⟨inner, entered, rfl⟩ := exists_concat_of_getLast?_map hlast
    intro step hstep
    rcases mem_zip_tail_concat hstep with hold | rfl
    · exact path.left step hold
    · exact permitted

/-- A search that has come to a nested context comes to the parent with two more questions. -/
theorem Quest.Approached.outward {key : String} {caller parent : Context} {frame : Frame}
    {store : Store} {events : List Event}
    (h : Quest.Approached ⟨key, caller, .nested frame parent⟩ events)
    (left : (Context.nested frame parent).Permits store (.askParentForFunction key))
    (asked : parent.Permits store (.askForFunction key)) :
    Quest.Approached ⟨key, caller, parent⟩
      (.checked parent (.askForFunction key) (parent.decision store (.askForFunction key)) ::
        .checked (.nested frame parent) (.askParentForFunction key)
          ((Context.nested frame parent).decision store (.askParentForFunction key)) ::
            events) := by
  obtain ⟨entries, hopen, hlast, hasked, hleft⟩ := h
  have hmore : OpenPath key caller (entries ++ [(parent, { store := store })]) :=
    hopen.concat hlast left asked
  obtain ⟨inner, entered, rfl⟩ := exists_concat_of_getLast?_map hlast
  refine ⟨_, hmore, by simp, ?_, ?_⟩
  · refine List.forall_mem_append.mpr ⟨fun entry hentry => ?_, ?_⟩
    · exact List.mem_cons_of_mem _ (List.mem_cons_of_mem _ (hasked entry hentry))
    · exact List.forall_mem_singleton.mpr (List.mem_cons_self ..)
  · -- the path now leaves the contexts that it left before, and the one that it had come to
    intro step hstep
    refine List.mem_cons_of_mem _ ?_
    rcases mem_zip_tail_concat hstep with hold | rfl
    · exact List.mem_cons_of_mem _ (hleft step hold)
    · exact List.mem_cons_self ..

/-- The questions that grant a call justify it. -/
theorem Quest.allJustified_entry {quest : Quest} {store : Store} {function : Function}
    {callee : Context} {events : List Event} (position : Nat)
    (granted : quest.Grants store function callee)
    (approached : quest.Approached events) (h : AllJustified events) :
    AllJustified (quest.entry store position function callee ++ events) := by
  refine ⟨?_, trivial, trivial, trivial, h⟩
  refine ⟨⟨quest.key, quest.scope, position⟩, function, rfl, ⟨store, granted, events, rfl⟩, ?_⟩
  exact approached.mono (List.subset_append_right _ _)

/-- In an orderly trace every event is justified, and a search has come where it is on an open
path. -/
theorem Orderly.justified {mode : Option Quest} {events : List Event} (h : Orderly mode events) :
    AllJustified events ∧ ∀ quest, mode = some quest → quest.Approached events := by
  induction h with
  | nil => exact ⟨trivial, fun quest heq => by cases heq⟩
  | checked _ _ _ _ ih => exact ⟨⟨trivial, ih.1⟩, fun quest heq => by cases heq⟩
  | opened _ _ ih => exact ⟨⟨trivial, ih.1⟩, fun quest heq => by cases heq⟩
  | noted _ _ ih => exact ⟨⟨trivial, ih.1⟩, fun quest heq => by cases heq⟩
  | resolved _ _ ihsearch ihrest =>
    exact ⟨ihsearch.1.append ihrest.1, fun quest heq => by cases heq⟩
  | @start key caller store asked =>
    refine ⟨⟨trivial, trivial⟩, fun quest heq => ?_⟩
    cases heq
    have path : OpenPath key caller [(caller, { store := store })] := openPath_singleton asked
    exact ⟨_, path, rfl, List.forall_mem_singleton.mpr (List.mem_cons_self ..),
      fun _ hstep => absurd hstep List.not_mem_nil⟩
  | outward _ left asked ih =>
    refine ⟨⟨trivial, trivial, ih.1⟩, fun quest heq => ?_⟩
    cases heq
    exact (ih.2 _ rfl).outward left asked
  | asked _ _ _ _ ih =>
    refine ⟨⟨trivial, ih.1⟩, fun quest heq => ?_⟩
    exact (ih.2 quest heq).mono (List.subset_cons_self _ _)
  | derived _ _ _ _ ih =>
    refine ⟨⟨trivial, ih.1⟩, fun quest heq => ?_⟩
    exact (ih.2 quest heq).mono (List.subset_cons_self _ _)
  | entered position granted _ ih =>
    refine ⟨Quest.allJustified_entry position granted (ih.2 _ rfl) ih.1, fun quest heq => ?_⟩
    exact (ih.2 quest heq).mono (List.subset_append_right _ _)
  | ran position granted _ _ _ ihbody ih =>
    have hentry := Quest.allJustified_entry position granted (ih.2 _ rfl) ih.1
    refine ⟨ihbody.1.append ⟨⟨granted.kind, _, _, _, rfl⟩, hentry⟩, fun quest heq => ?_⟩
    refine (ih.2 quest heq).mono (fun event hmem => ?_)
    exact List.mem_append_right _ (List.mem_cons_of_mem _ (List.mem_append_right _ hmem))

/-! ### New contexts -/

namespace Fresh

variable {lower middle upper : Nat} {newer older : List Event} {event : Event}

/-- No events open no contexts. -/
theorem nil (size : Nat) : Fresh size size [] :=
  ⟨Nat.le_refl _, fun _ hmem => absurd hmem List.not_mem_nil, .nil⟩

/-- The contexts of later events are newer than those of earlier ones. -/
theorem append (hnewer : Fresh middle upper newer) (holder : Fresh lower middle older) :
    Fresh lower upper (newer ++ older) := by
  refine ⟨Nat.le_trans holder.grows hnewer.grows, ?_, ?_⟩
  · intro context hmem
    rw [List.filterMap_append] at hmem
    rcases List.mem_append.mp hmem with hnew | hold
    · have hbounds := hnewer.bounds context hnew
      exact ⟨Nat.le_trans holder.grows hbounds.1, hbounds.2⟩
    · have hbounds := holder.bounds context hold
      exact ⟨hbounds.1, Nat.lt_of_lt_of_le hbounds.2 hnewer.grows⟩
  · rw [List.filterMap_append]
    refine List.pairwise_append.mpr ⟨hnewer.ordered, holder.ordered, ?_⟩
    intro later hlater earlier hearlier
    have hnew := hnewer.bounds later hlater
    have hold := holder.bounds earlier hearlier
    omega

/-- An event that opens no context. -/
theorem quiet (h : Fresh lower upper older) (hevent : event.created? = none) :
    Fresh lower upper (event :: older) := by
  refine ⟨h.grows, ?_, ?_⟩
  · rw [List.filterMap_cons_none hevent]
    exact h.bounds
  · rw [List.filterMap_cons_none hevent]
    exact h.ordered

/-- An event that opens a context at the next place. -/
theorem create (h : Fresh lower upper older) {context : Context}
    (hevent : event.created? = some context) (hid : context.id = upper) :
    Fresh lower (upper + 1) (event :: older) := by
  have hsingle : Fresh upper (upper + 1) [event] := by
    refine ⟨Nat.le_succ upper, ?_, ?_⟩
    · intro other hmem
      rw [List.filterMap_cons_some hevent] at hmem
      rw [List.mem_singleton.mp hmem]
      omega
    · rw [List.filterMap_cons_some hevent]
      exact List.pairwise_singleton ..
  exact hsingle.append h

end Fresh

/-! ### Runs leave orderly traces -/

/-- What the events between two states say: the trace was continued in an orderly way and from
inside of a context, new contexts were opened, and functions stand where they were looked up. -/
structure Trail (home : Context) (mode : Option Quest) (state final : State)
    (events : List Event) : Prop where
  trace : final.trace = events ++ state.trace
  orderly : Orderly mode events
  fresh : Fresh state.store.size final.store.size events
  inside : ∀ event ∈ events, event.Inside home
  listed : ∀ event ∈ events, event.Listed final.store

/-- Between two states functions were only added, and the trace was continued as it should be. -/
structure Shows (home : Context) (mode : Option Quest) (state final : State) : Prop where
  grown : state.Grown final
  trail : ∃ events, Trail home mode state final events

/-- A function stays where it stands. -/
theorem Event.Listed.mono {event : Event} {state final : State} (h : event.Listed state.store)
    (grown : state.Grown final) : event.Listed final.store := by
  match event, h with
  | .entered (some lookup) _ callee, ⟨function, hkind, hplace⟩ =>
    exact ⟨function, hkind, grown.getElem? hplace⟩
  | .entered none _ _, _ => trivial
  | .checked .., _ => trivial
  | .derived .., _ => trivial
  | .opened _, _ => trivial
  | .began .., _ => trivial
  | .noted _, _ => trivial

/-- What happens inside of a context happens inside of those around it. -/
theorem Event.Inside.mono {event : Event} {home inner : Context} (h : event.Inside inner)
    (around : home ∈ inner.ancestry) : event.Inside home := by
  cases event with
  | checked context check answer =>
    obtain ⟨asking, hasking, hcontext⟩ := h
    exact ⟨asking, Context.mem_ancestry_trans hasking around, hcontext⟩
  | derived context function answer => exact Context.mem_ancestry_trans h around
  | opened scope => exact Context.mem_ancestry_trans h around
  | entered lookup caller callee =>
    exact ⟨Context.mem_ancestry_trans h.1 around, Context.mem_ancestry_trans h.2 around⟩
  | began context function => exact Context.mem_ancestry_trans h around
  | noted line => trivial

namespace Shows

variable {home : Context} {mode next : Option Quest} {state middle final : State} {quest : Quest}

/-- Doing nothing shows nothing. -/
theorem refl (state : State) : Shows home none state state where
  grown := .refl state
  trail := ⟨[], rfl, .nil, .nil _, fun _ hmem => absurd hmem List.not_mem_nil,
    fun _ hmem => absurd hmem List.not_mem_nil⟩

/-- A run goes on with events that keep it orderly. -/
theorem extend (newer : List Event) (h : Shows home mode state middle)
    (trace : final.trace = newer ++ middle.trace) (grown : middle.Grown final)
    (orderly : ∀ events, Orderly mode events → Orderly next (newer ++ events))
    (fresh : ∀ {lower : Nat} {events : List Event}, Fresh lower middle.store.size events →
      Fresh lower final.store.size (newer ++ events))
    (inside : ∀ event ∈ newer, event.Inside home)
    (listed : ∀ event ∈ newer, event.Listed final.store) : Shows home next state final := by
  obtain ⟨events, trail⟩ := h.trail
  refine ⟨h.grown.trans grown, newer ++ events, ?_, orderly events trail.orderly,
    fresh trail.fresh, ?_, ?_⟩
  · rw [trace, trail.trace, List.append_assoc]
  · exact List.forall_mem_append.mpr ⟨inside, trail.inside⟩
  · exact List.forall_mem_append.mpr
      ⟨listed, fun event hevent => (trail.listed event hevent).mono grown⟩

/-- Two orderly traces are one. -/
theorem orderly_append {newer older : List Event} (hnewer : Orderly none newer)
    (holder : Orderly none older) : Orderly none (newer ++ older) := by
  generalize hmode : (none : Option Quest) = mode at hnewer
  induction hnewer with
  | nil => exact holder
  | checked context check answer _ ih => exact .checked context check answer (ih hmode)
  | opened scope _ ih => exact .opened scope (ih hmode)
  | noted line _ ih => exact .noted line (ih hmode)
  | resolved search _ _ ih =>
    rw [List.append_assoc]
    exact .resolved search (ih hmode)
  | start => cases hmode
  | outward => cases hmode
  | asked => cases hmode
  | derived => cases hmode
  | entered => cases hmode
  | ran => cases hmode

/-- What two parts of a run show, both together do. -/
theorem trans (hfirst : Shows home none state middle) (hsecond : Shows home none middle final) :
    Shows home none state final := by
  obtain ⟨newer, trail⟩ := hsecond.trail
  exact hfirst.extend newer trail.trace hsecond.grown
    (fun _ horderly => orderly_append trail.orderly horderly) trail.fresh.append trail.inside
    trail.listed

/-- An event that opens no context keeps a run orderly wherever it may stand. -/
theorem quiet {event : Event} (h : Shows home mode state middle) (hevent : event.created? = none)
    (orderly : ∀ events, Orderly mode events → Orderly next (event :: events))
    (inside : event.Inside home) : Shows home next state (middle.log event) := by
  refine h.extend [event] rfl (.log middle event) orderly (fun hfresh => ?_) ?_ ?_
  · exact hfresh.quiet hevent
  · exact List.forall_mem_singleton.mpr inside
  · refine List.forall_mem_singleton.mpr ?_
    cases event with
    | entered lookup caller callee => cases hevent
    | _ => trivial

/-- A question outside of searches is in order. -/
theorem checked {context : Context} (check : Check)
    (asks : context.SeenFrom home) (state : State) :
    Shows home none state (state.asked context check) :=
  (refl state).quiet rfl (fun _ => .checked context check _) asks

/-- A search starts with a permission to look for functions. -/
theorem started {key : String} {caller : Context} (hosts : home ∈ caller.ancestry)
    (asked : caller.Permits state.store (.askForFunction key)) :
    Shows home (some ⟨key, caller, caller⟩) state (state.asked caller (.askForFunction key)) := by
  refine ⟨.log state _, [_], rfl, .start asked, (Fresh.nil _).quiet rfl, ?_, ?_⟩
  · exact List.forall_mem_singleton.mpr ⟨caller, hosts, caller.mem_ancestry_self⟩
  · exact List.forall_mem_singleton.mpr trivial

/-- A search may end wherever it is. -/
theorem resolved (h : Shows home (some quest) state final) : Shows home none state final := by
  obtain ⟨grown, events, trail⟩ := h
  have horderly : Orderly none (events ++ []) := .resolved trail.orderly .nil
  rw [List.append_nil] at horderly
  exact ⟨grown, events, { trail with orderly := horderly }⟩

/-- A question of a search is in order. -/
theorem asked {context : Context} (h : Shows home (some quest) state middle) (check : Check)
    (asks : context.SeenFrom home) :
    Shows home (some quest) state (middle.asked context check) :=
  h.quiet rfl (fun _ => .asked context check _) asks

/-- So is one for the policy of a call. -/
theorem derived {context : Context} (h : Shows home (some quest) state middle)
    (function : Function) (answer : Outcome Policy) (hosts : home ∈ context.ancestry) :
    Shows home (some quest) state (middle.log (.derived context function answer)) :=
  h.quiet rfl (fun _ => .derived context function answer) hosts

/-- A search goes outward with two permissions. -/
theorem outward {key : String} {caller parent : Context} {frame : Frame}
    (h : Shows home (some ⟨key, caller, .nested frame parent⟩) state middle)
    (hosts : home ∈ caller.ancestry) (around : .nested frame parent ∈ caller.ancestry)
    (left : (Context.nested frame parent).Permits middle.store (.askParentForFunction key))
    (asked : parent.Permits middle.store (.askForFunction key)) :
    Shows home (some ⟨key, caller, parent⟩) state
      ((middle.asked (.nested frame parent) (.askParentForFunction key)).asked parent
        (.askForFunction key)) := by
  refine h.extend [_, _] rfl (.refl middle) (fun _ horderly => .outward horderly left asked)
    (fun hfresh => (hfresh.quiet rfl).quiet rfl) ?_ ?_
  · refine List.forall_mem_cons.mpr ⟨?_, List.forall_mem_singleton.mpr ?_⟩
    · exact ⟨caller, hosts, Context.parent_mem_ancestry around⟩
    · exact ⟨caller, hosts, around⟩
  · exact List.forall_mem_cons.mpr ⟨trivial, List.forall_mem_singleton.mpr trivial⟩

/-- The state in which a call that was granted has its context. -/
def entrance (quest : Quest) (position : Nat) (function : Function) (middle : State) : State :=
  (middle.asked quest.scope (.tryFunction quest.key function)).called
    (some ⟨quest.key, quest.scope, position⟩) quest.caller function

/-- The questions for a call open no context, and the call opens one at the next place. -/
theorem fresh_entry {events : List Event} {lower : Nat} {store : Store} {function : Function}
    {callee : Context} (position : Nat) (h : Fresh lower store.size events)
    (hid : callee.id = store.size) :
    Fresh lower (store.size + 1) (quest.entry store position function callee ++ events) :=
  (((h.quiet rfl).quiet rfl).quiet rfl).create rfl hid

/-- A call whose function stands where it was looked up is entered in order. -/
theorem entered (h : Shows home (some quest) state middle) (hosts : home ∈ quest.caller.ancestry)
    (around : quest.scope ∈ quest.caller.ancestry) {function : Function} {position : Nat}
    (granted : quest.Grants middle.store function (quest.caller.calleeAt middle.store function))
    (found : ((middle.store.registry quest.scope.id).overloads quest.key)[position]? =
      some function) :
    Shows home (some quest) state (entrance quest position function middle) := by
  have hgrown : middle.Grown (entrance quest position function middle) := .extend middle
  refine h.extend
    (quest.entry middle.store position function (quest.caller.calleeAt middle.store function))
    rfl hgrown (fun _ horderly => .entered position granted horderly) ?_ ?_ ?_
  · intro lower events hfresh
    show Fresh _ middle.store.extend.size _
    rw [Store.size_extend]
    exact fresh_entry position hfresh rfl
  · have hself : home ∈ (quest.caller.calleeAt middle.store function).ancestry :=
      Context.mem_ancestry_nested hosts
    refine List.forall_mem_cons.mpr ⟨⟨hosts, hself⟩, List.forall_mem_cons.mpr ⟨hosts, ?_⟩⟩
    refine List.forall_mem_cons.mpr ⟨?_, List.forall_mem_singleton.mpr ?_⟩
    · exact ⟨quest.caller, hosts, quest.caller.mem_ancestry_self⟩
    · exact ⟨quest.caller, hosts, around⟩
  · refine List.forall_mem_cons.mpr ⟨⟨function, rfl, hgrown.getElem? found⟩, ?_⟩
    refine List.forall_mem_cons.mpr ⟨trivial, List.forall_mem_cons.mpr ⟨trivial, ?_⟩⟩
    exact List.forall_mem_singleton.mpr trivial

/-- The body of a call runs in order after it was entered. -/
theorem ran (h : Shows home (some quest) state middle) (hosts : home ∈ quest.caller.ancestry)
    (around : quest.scope ∈ quest.caller.ancestry) {function : Function} {position : Nat}
    (granted : quest.Grants middle.store function (quest.caller.calleeAt middle.store function))
    (found : ((middle.store.registry quest.scope.id).overloads quest.key)[position]? =
      some function)
    (hbody : Shows (quest.caller.calleeAt middle.store function) none
      ((entrance quest position function middle).log
        (.began (quest.caller.calleeAt middle.store function) function)) final) :
    Shows home (some quest) state final := by
  obtain ⟨events, trail⟩ := h.trail
  obtain ⟨entry, hentry⟩ := (h.entered hosts around granted found).trail
  obtain ⟨body, hbodyTrail⟩ := hbody.trail
  have hself : home ∈ (quest.caller.calleeAt middle.store function).ancestry :=
    Context.mem_ancestry_nested hosts
  -- the events of the entry are known, and so `Orderly.ran` can take them from those of the body
  have htrace : entry = quest.entry middle.store position function
      (quest.caller.calleeAt middle.store function) ++ events := by
    have hsame : entry ++ state.trace = _ := hentry.trace.symm
    refine List.append_cancel_right (hsame.trans ?_)
    rw [List.append_assoc, ← trail.trace]
    rfl
  subst htrace
  have hgrown := (h.entered hosts around granted found).grown
  refine ⟨hgrown.trans hbody.grown, _, ?_,
    .ran position granted hbodyTrail.orderly hbodyTrail.inside trail.orderly,
    hbodyTrail.fresh.append (hentry.fresh.quiet rfl), ?_, ?_⟩
  · simp only [hbodyTrail.trace, State.trace_log, hentry.trace, List.append_assoc, List.cons_append]
  · refine List.forall_mem_append.mpr ⟨fun event hevent => ?_, ?_⟩
    · exact (hbodyTrail.inside event hevent).mono hself
    · exact List.forall_mem_cons.mpr ⟨hself, hentry.inside⟩
  · refine List.forall_mem_append.mpr ⟨hbodyTrail.listed, List.forall_mem_cons.mpr ⟨trivial, ?_⟩⟩
    exact fun event hevent => (hentry.listed event hevent).mono hbody.grown

end Shows

/-! ### Searches -/

/-- A body begins right away, and leaves an orderly trace from inside of its context; or it does not
begin at all. -/
def BodiesShow (perform : Evaluator) : Prop :=
  ∀ callee function bindings state,
    (perform callee (.run function bindings) state).2 = state ∨
      Shows callee none (state.log (.began callee function))
        (perform callee (.run function bindings) state).2

section Search

variable {perform : Evaluator} (bodies : BodiesShow perform) {home : Context} {state middle : State}

include bodies

/-- A call of a function that may be tried is in order, and takes no function away. -/
theorem shows_invokeObject {quest : Quest} (h : Shows home (some quest) state middle)
    (hosts : home ∈ quest.caller.ancestry) (around : quest.scope ∈ quest.caller.ancestry)
    {function : Function} {position : Nat}
    (tried : quest.scope.Permits middle.store (.tryFunction quest.key function))
    (found : ((middle.store.registry quest.scope.id).overloads quest.key)[position]? =
      some function) (bindings : Bindings) :
    let called := (invokeObject perform (some ⟨quest.key, quest.scope, position⟩) quest.caller
      function bindings (middle.asked quest.scope (.tryFunction quest.key function))).2
    Shows home (some quest) state called ∧ middle.Grown called := by
  let asked := middle.asked quest.scope (.tryFunction quest.key function)
  have hscope : quest.scope.SeenFrom home := ⟨quest.caller, hosts, around⟩
  have hcaller : quest.caller.SeenFrom home :=
    ⟨quest.caller, hosts, quest.caller.mem_ancestry_self⟩
  have hasked := (h.asked (.tryFunction quest.key function) hscope).asked (.runFunction function)
    hcaller
  rcases quest.caller.refused_or_underived_or_granted asked.store function with
    ⟨reason, refused⟩ | ⟨permits, reason, underived⟩ | ⟨permits, derived⟩
  · rw [invokeObject_of_refused _ _ _ asked refused]
    exact ⟨hasked, .refl middle⟩
  · rw [invokeObject_of_underived _ _ _ asked permits underived]
    exact ⟨hasked.derived function _ hosts, .refl middle⟩
  · have granted : quest.Grants middle.store function
        (quest.caller.calleeAt middle.store function) :=
      ⟨tried, permits, derived, rfl, rfl, rfl, rfl, rfl⟩
    have hgrown : middle.Grown (Shows.entrance quest position function middle) := .extend middle
    rw [invokeObject_of_permits _ _ _ asked permits derived]
    rcases bodies (quest.caller.calleeAt middle.store function) function bindings
      (Shows.entrance quest position function middle) with hsame | hran
    · have hentered := h.entered hosts around granted found
      rw [← hsame] at hentered hgrown
      exact ⟨hentered, hgrown⟩
    · exact ⟨h.ran hosts around granted found hran, hgrown.trans hran.grown⟩

/-- Trying functions that stand in the registry of their scope is in order. -/
theorem shows_tryOverloads {quest : Quest} (h : Shows home (some quest) state middle)
    (hosts : home ∈ quest.caller.ancestry) (around : quest.scope ∈ quest.caller.ancestry)
    (arguments : List (Argument Value)) {functions : List Function} {position : Nat}
    (hfound : ∀ entry ∈ functions.zipIdx position,
      ((middle.store.registry quest.scope.id).overloads quest.key)[entry.2]? = some entry.1)
    (refusals : Refusals) :
    Shows home (some quest) state (tryOverloads perform quest.caller quest.scope quest.key arguments
      functions position refusals middle).2 := by
  induction functions generalizing middle position refusals with
  | nil => exact h
  | cons function functions ih =>
    rw [List.zipIdx_cons, List.forall_mem_cons] at hfound
    have htried := h.asked (.tryFunction quest.key function) ⟨quest.caller, hosts, around⟩
    unfold tryOverloads
    rcases quest.scope.refused_or_permits middle.store (.tryFunction quest.key function) with
      ⟨reason, refused⟩ | tried
    · rw [Context.run_guarded_of_refused _ _ _ refused]
      exact ih htried hfound.2 _
    · rw [Context.run_guarded_of_permits _ _ _ tried]
      cases function.bind? arguments with
      | none => exact ih htried hfound.2 _
      | some bindings =>
        obtain ⟨hcall, hgrown⟩ := shows_invokeObject bodies h hosts around tried hfound.1 bindings
        have hlater := fun entry hentry => hgrown.getElem? (hfound.2 entry hentry)
        simp only [Run.bind_apply]
        cases hcalled : invokeObject perform (some ⟨quest.key, quest.scope, position⟩) quest.caller
            function bindings (middle.asked quest.scope (.tryFunction quest.key function)) with
        | mk found called =>
          rw [hcalled] at hcall hlater
          cases found with
          | none => exact hcall
          | some outcome =>
            cases outcome with
            | success value => exact hcall
            | empty => exact ih hcall hlater _
            | failure reason => exact ih hcall hlater _

/-- A search is in order if it is beyond its first context. -/
theorem shows_search_of_beyond {key : String} {caller scope : Context}
    (h : Shows home (some ⟨key, caller, scope⟩) state middle) (hosts : home ∈ caller.ancestry)
    (around : scope ∈ caller.ancestry) (arguments : List (Argument Value)) (refusals : Refusals)
    (hbeyond : ∀ tried refusals, Shows home (some ⟨key, caller, scope⟩) state tried →
      Shows home none state (searchBeyond perform caller key arguments refusals scope tried).2) :
    Shows home none state (search perform caller key arguments refusals scope middle).2 := by
  let functions := (middle.store.registry scope.id).overloads key
  have hfound : ∀ entry ∈ functions.zipIdx 0, functions[entry.2]? = some entry.1 :=
    fun entry hentry => List.mem_zipIdx_iff_getElem?.mp hentry
  have htries := shows_tryOverloads bodies h hosts around arguments hfound refusals
  rw [search_eq, Run.bind_apply_of_some (Run.lift_apply _ _), Context.overloads_apply]
  simp only [Run.bind_apply]
  cases htried : tryOverloads perform caller scope key arguments
      ((middle.store.registry scope.id).overloads key) 0 refusals middle with
  | mk found tried =>
    rw [htried] at htries
    cases found with
    | none => exact htries.resolved
    | some result =>
      cases result with
      | found value => exact htries.resolved
      | pending refusals => exact hbeyond tried refusals htries

/-- A search from a context outward is in order. -/
theorem shows_search {key : String} {caller scope : Context}
    (h : Shows home (some ⟨key, caller, scope⟩) state middle) (hosts : home ∈ caller.ancestry)
    (around : scope ∈ caller.ancestry) (arguments : List (Argument Value)) (refusals : Refusals) :
    Shows home none state (search perform caller key arguments refusals scope middle).2 := by
  induction scope generalizing middle refusals with
  | root frame =>
    exact shows_search_of_beyond bodies h hosts around arguments refusals
      (fun _ _ htries => htries.resolved)
  | nested frame parent ih =>
    refine shows_search_of_beyond bodies h hosts around arguments refusals
      (fun tried refusals htries => ?_)
    have houter : parent ∈ caller.ancestry := Context.parent_mem_ancestry around
    have hleft := htries.asked (.askParentForFunction key) ⟨caller, hosts, around⟩
    simp only [searchBeyond]
    rcases (Context.nested frame parent).refused_or_permits tried.store (.askParentForFunction key)
      with ⟨reason, refused⟩ | left
    · rw [Context.run_guarded_of_refused _ _ _ refused]
      exact hleft.resolved
    · rw [Context.run_guarded_of_permits _ _ _ left]
      let asked := tried.asked (.nested frame parent) (.askParentForFunction key)
      rcases parent.refused_or_permits asked.store (.askForFunction key) with
        ⟨reason, refused⟩ | permitted
      · rw [Context.run_guarded_of_refused _ _ asked refused]
        exact (hleft.asked _ ⟨caller, hosts, houter⟩).resolved
      · rw [Context.run_guarded_of_permits _ _ asked permitted]
        exact ih (htries.outward hosts around left permitted) houter refusals

/-- A call by name is in order. -/
theorem shows_invoke {context : Context} (hosts : home ∈ context.ancestry) (name : String)
    (arguments : List (Argument Value)) :
    Shows home none state (invoke perform context name arguments state).2 := by
  unfold invoke invokeFrom
  rcases context.refused_or_permits state.store (.askForFunction (Text.key name)) with
    ⟨reason, refused⟩ | asked
  · rw [Context.run_guarded_of_refused _ _ _ refused]
    exact .checked _ ⟨context, hosts, context.mem_ancestry_self⟩ state
  · rw [Context.run_guarded_of_permits _ _ _ asked]
    exact shows_search bodies (Shows.started hosts asked) hosts context.mem_ancestry_self arguments
      {}

end Search

/-! ### The induction -/

section Induction

variable {home : Context}

/-- Questions on behalf of contexts inside of one are in order. -/
theorem passage_shows : Passage (fun context => context.SeenFrom home) (Shows home none) where
  refl := Shows.refl
  trans := Shows.trans
  asked := fun state check asks _ => Shows.checked check asks state

/-- A change of a registry that only adds functions shows nothing. -/
theorem shows_update {state : State} {id : Nat} {change : Registry → Registry}
    (grown : state.Grown (state.update id change)) :
    Shows home none state (state.update id change) := by
  refine ⟨grown, [], rfl, .nil, ?_, fun _ hmem => absurd hmem List.not_mem_nil,
    fun _ hmem => absurd hmem List.not_mem_nil⟩
  rw [State.store_update, Store.size_update]
  exact .nil _

/-- A new scope is opened in order. -/
theorem shows_openScope {context : Context} (hosts : home ∈ context.ancestry) (marker : String)
    (state : State) : Shows home none state (context.openScope marker state).2 := by
  refine ⟨.extend state, [_], rfl, .opened _ .nil, ?_, ?_, ?_⟩
  · show Fresh state.store.size state.store.extend.size _
    rw [Store.size_extend]
    exact (Fresh.nil _).create rfl rfl
  · exact List.forall_mem_singleton.mpr (Context.mem_ancestry_nested hosts)
  · exact List.forall_mem_singleton.mpr trivial

variable (home) in
/-- Being mediated, as a judgement on all programs inside of a context. -/
@[reducible]
def mediation : Discipline .any where
  Index := Unit
  Holds run P := Along (fun _ => True) (Shows home none) (run ()) P
  Hosts context := home ∈ context.ancestry
  Asks context := context.SeenFrom home
  asks_around := fun hosts _ hscope => ⟨_, hosts, hscope⟩
  holds_pure := along_pure Shows.refl
  holds_bind := along_bind (R := Shows home none) (fun _ _ _ => Shows.trans)
  holds_consult := fun check asks _ =>
    along_lift (fun state _ => ⟨Shows.checked check asks state, trivial, state.store, rfl⟩)
  holds_note := fun line => along_lift (fun state _ =>
    ⟨(Shows.refl state).quiet rfl (fun _ => .noted line) trivial, trivial, trivial⟩)
  holds_openScope := fun marker hosts => along_lift (fun state _ =>
    ⟨shows_openScope hosts marker state, trivial, Context.mem_ancestry_nested hosts⟩)
  holds_require := fun key hosts => along_lift (fun state _ =>
    ⟨Context.require_passage passage_shows key _ (fun _ hscope => ⟨_, hosts, hscope⟩) state,
      trivial, fun _ _ => trivial⟩)
  holds_set := by
    intro context key global value hosts _ _
    refine along_lift (fun state _ => ⟨?_, trivial, trivial⟩)
    have hasked : ∀ scope ∈ context.ancestry, ∀ check state,
        Shows home none state (state.asked scope check) :=
      fun scope hscope check state => .checked check ⟨context, hosts, hscope⟩ state
    exact Context.set_passage passage_shows (fun scope hscope _ => hasked scope hscope _)
      (fun scope hscope _ _ state =>
        (hasked scope hscope _ state).trans (shows_update (.setVariable _ _ key value)))
      (fun _ _ _ state => shows_update (.removeVariable state _ key)) state
  holds_register := by
    intro context name function global hosts _ _
    refine along_lift (fun state _ => ⟨?_, trivial, trivial⟩)
    exact Context.register_passage passage_shows (fun _ hscope => ⟨context, hosts, hscope⟩)
      (fun _ _ _ key state => shows_update (.addFunction state _ key function)) state

end Induction

section Levels

variable {perform : Evaluator}

/-- Calls by name are in order if bodies are. -/
theorem serves_of_bodies (bodies : BodiesShow perform) {home : Context}
    (performs : (mediation home).Performs (fun _ => perform)) :
    (mediation home).Serves (fun _ => perform) where
  invoke := by
    intro context name arguments hosts _ state _
    exact ⟨shows_invoke bodies hosts name arguments, trivial, fun _ _ _ _ => trivial⟩
  again := fun hosts _ => performs.resolve hosts _

/-- One more level of nesting keeps the judgement on tasks. -/
theorem mediated_performs_step {home : Context}
    (serves : (mediation home).Serves (fun _ => perform))
    (performs : (mediation home).Performs (fun _ => perform)) :
    (mediation home).Performs (fun _ => step perform) where
  evaluate := fun _ hosts =>
    Discipline.holds_evaluateStep serves hosts (fun part _ => performs.resolve hosts part)
  act := fun hosts abides =>
    Discipline.holds_actStep hosts (performs.resolve hosts) abides
      (fun _ _ _ hscope inner _ => performs.act hscope (Action.abides_any inner))

/-- With one more level of nesting a body begins at once, and stays in its own context. -/
theorem began_shows {callee : Context} (serves : (mediation callee).Serves (fun _ => perform))
    (performs : (mediation callee).Performs (fun _ => perform)) (function : Function)
    (bindings : Bindings) (state : State) :
    Shows callee none (state.log (.began callee function))
      (step perform callee (.run function bindings) state).2 := by
  have hosts : (mediation callee).Hosts callee := callee.mem_ancestry_self
  have binds : Terms.any.Binds bindings := ⟨fun _ _ => trivial, fun _ _ => trivial⟩
  have hbody := Discipline.holds_runBody serves hosts (performs.resolve hosts)
    (fun _ abides => performs.act hosts abides) (Function.abides_any function) binds
  exact (hbody (state.log (.began callee function)) trivial).1

/-- With whatever fuel, bodies and tasks are in order. -/
theorem mediated_perform (fuel : Nat) : BodiesShow (GuardedScript.perform fuel) ∧
    ∀ home, (mediation home).Performs (fun _ => GuardedScript.perform fuel) := by
  -- bodies and tasks are taken together, since each runs the other with less fuel; what a task does
  -- is judged from every home, as a body that it calls makes its own context the home
  induction fuel with
  | zero =>
    refine ⟨fun _ _ _ _ => .inl rfl, fun home => ⟨?_, ?_⟩⟩
    · exact fun _ _ => along_failure Shows.refl
    · exact fun _ _ => along_failure Shows.refl
  | succ fuel ih =>
    have serves := fun home => serves_of_bodies ih.1 (ih.2 home)
    refine ⟨fun callee function bindings state => .inr ?_, fun home => ?_⟩
    · exact began_shows (serves callee) (ih.2 callee) function bindings state
    · exact mediated_performs_step (serves home) (ih.2 home)

end Levels

/-- A body that has fuel to begin with begins at once, and all it does comes from inside of its
context. -/
theorem perform_run_shows (fuel : Nat) (callee : Context) (function : Function)
    (bindings : Bindings) (state : State) :
    Shows callee none (state.log (.began callee function))
      (perform (fuel + 1) callee (.run function bindings) state).2 := by
  obtain ⟨bodies, performs⟩ := mediated_perform fuel
  exact began_shows (serves_of_bodies bodies (performs callee)) (performs callee) function bindings
    state

/-- Every request keeps to terms that ask for nothing. -/
theorem Request.abides_any (request : Request) : request.Abides .any := by
  cases request with
  | act action => exact Action.abides_any action
  | block body => exact Action.all_abide_any body.actions
  | invoke name arguments => exact fun _ _ => trivial
  | member receiver name arguments => exact fun _ _ => trivial
  | _ => trivial

/-- Every request is in order. -/
theorem Request.serve_shows (fuel : Nat) (context : Context) (request : Request) (state : State) :
    Shows context none state (request.serve (perform fuel) context state).2 := by
  obtain ⟨bodies, performs⟩ := mediated_perform fuel
  have hosts : (mediation context).Hosts context := context.mem_ancestry_self
  have hserve := Discipline.holds_serve (serves_of_bodies bodies (performs context))
    (performs context) hosts request.abides_any
  exact (hserve state trivial).1

/-- Complete mediation.  Whatever is asked of whatever context in whatever state, and however much
fuel there is: every context of a call that the run opens was opened by a search on behalf of its
parent, after all questions on the way from there to the function and those for the call itself,
none of which was refused, and under the derived policy; the function that is called stands in the
registry of the scope in which it was found, under the key and at the place of the look-up; and a
body begins only in a context that has just been opened for it.  All that a run does comes from
inside of the context that was asked, and all that a body does from inside of the context in which
it began. -/
theorem Request.serve_mediated (fuel : Nat) (context : Context) (request : Request)
    (state : State) :
    (∃ events, (request.serve (perform fuel) context state).2.trace = events ++ state.trace ∧
      Orderly none events ∧
      Fresh state.store.size (request.serve (perform fuel) context state).2.store.size events ∧
      (∀ event ∈ events, event.Inside context) ∧
      (∀ newer lookup caller callee older,
        events = newer ++ .entered lookup caller callee :: older →
        ∃ found function, lookup = some found ∧ Mediated found caller function callee older ∧
          (((request.serve (perform fuel) context state).2.store.registry found.scope.id).overloads
            found.key)[found.position]? = some function) ∧
      (∀ newer callee function older, events = newer ++ .began callee function :: older →
        callee.kind = .call function ∧
          ∃ lookup caller rest, older = .entered (some lookup) caller callee :: rest)) ∧
    ∀ callee function bindings before, ∃ body,
      (perform (fuel + 1) callee (.run function bindings) before).2.trace =
        body ++ .began callee function :: before.trace ∧
      Orderly none body ∧ ∀ event ∈ body, event.Inside callee := by
  refine ⟨?_, fun callee function bindings before => ?_⟩
  · obtain ⟨-, events, trail⟩ := request.serve_shows fuel context state
    have hjustified : AllJustified events := trail.orderly.justified.1
    refine ⟨events, trail.trace, trail.orderly, trail.fresh, trail.inside, ?_, ?_⟩
    · intro newer lookup caller callee older hsplit
      obtain ⟨found, function, rfl, mediated⟩ := hjustified.split hsplit
      have hmem : .entered (some found) caller callee ∈ events := by simp [hsplit]
      obtain ⟨listed, hkind, hplace⟩ := trail.listed _ hmem
      obtain ⟨store, granted, -⟩ := mediated.granted
      -- the function that was granted and the one that is listed are that of the new context
      obtain rfl : function = listed := Kind.call.inj (granted.kind.symm.trans hkind)
      exact ⟨found, function, rfl, mediated, hplace⟩
    · intro newer callee function older hsplit
      exact hjustified.split hsplit
  · obtain ⟨-, body, trail⟩ := perform_run_shows fuel callee function bindings before
    exact ⟨body, trail.trace, trail.orderly, trail.inside⟩

end GuardedScript

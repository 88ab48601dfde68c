import GuardedScript.Proofs.Seating
import GuardedScript.Proofs.Specificity
import GuardedScript.Registration

/-!
# Host functions get what they can read

A host function declares a parameter of a certain type for each of its arguments, and reads what is
bound to it as an element of a host type.  Every host type can read all values of the type that it
asks for (`LawfulReadable`).  Binding gives every mandatory parameter a value of its type, so all
arguments of a bound call are read, the function is applied to the readings once, which the lines
that it leaves for the host show, and the call succeeds with its result.

A member function has the parameter of its receiver in front.  A call through a receiver passes that
by name before the arguments of the call site, and a function that is not variadic leaves nothing
over, so that no argument of the call site takes its place.

`Context.typed_registration` states this for functions and procedures, members or not, of every
arity.
-/

set_option autoImplicit false

namespace GuardedScript

/-! ### Reading values of a type -/

/-- All values of the type with a name can be read. -/
def Readable.Covers (α : Type) [Readable α] (typeName : String) : Prop :=
  ∀ value : Value, value.type.is typeName = true → ∃ element : α, read? value = some element

/-- A host type that reads all values of the type it asks for. -/
class LawfulReadable (α : Type) [Readable α] : Prop where
  covers : Readable.Covers α (Readable.type α).name

instance : LawfulReadable Int64 where
  covers value h := by
    cases value with
    | int n => exact ⟨n, rfl⟩
    | _ => exact (Bool.false_ne_true h).elim

instance : LawfulReadable Float where
  covers value h := by
    cases value with
    | int n => exact ⟨Number.toFloat (.int n), rfl⟩
    | double d => exact ⟨d, rfl⟩
    | _ => exact (Bool.false_ne_true h).elim

instance : LawfulReadable Number where
  covers value h := by
    cases value with
    | int n => exact ⟨.int n, rfl⟩
    | double d => exact ⟨.double d, rfl⟩
    | _ => exact (Bool.false_ne_true h).elim

instance : LawfulReadable Bool where
  covers value h := by
    cases value with
    | boolean b => exact ⟨b, rfl⟩
    | _ => exact (Bool.false_ne_true h).elim

instance : LawfulReadable Char where
  covers value h := by
    cases value with
    | char c => exact ⟨c, rfl⟩
    | _ => exact (Bool.false_ne_true h).elim

instance : LawfulReadable String where
  covers value h := by
    cases value with
    | string s => exact ⟨s, rfl⟩
    | _ => exact (Bool.false_ne_true h).elim

instance : LawfulReadable Sequence where
  covers value h := by
    cases value with
    | array dynamic items => exact ⟨⟨dynamic, items⟩, rfl⟩
    | _ => exact (Bool.false_ne_true h).elim

instance : LawfulReadable Value where
  covers value _ := ⟨value, rfl⟩

/-! ### Readers -/

namespace Reader

variable {α : Type}

/-- A reader of the parameter that its host type asks for. -/
def Typed (reader : Reader α) : Prop :=
  ∃ (_ : Readable α) (_ : LawfulReadable α) (name : String), reader = .of α name

/-- A mandatory parameter, all of whose values can be read. -/
structure Total (reader : Reader α) : Prop where
  mandatory : reader.parameter.missing = .mandatory
  reads : ∀ value, reader.parameter.accepts value = true →
    ∃ element, reader.read? value = some element

/-- A reader of the parameter that its host type asks for reads all values of that type. -/
theorem Typed.total {reader : Reader α} (typed : reader.Typed) : reader.Total := by
  obtain ⟨_, _, name, rfl⟩ := typed
  exact ⟨rfl, LawfulReadable.covers⟩

/-- The reader of a receiver reads all values of a type that its host type covers. -/
theorem total_receiver [Readable α] {typeName : String} (covers : Readable.Covers α typeName) :
    (receiver α typeName).Total :=
  ⟨rfl, covers⟩

/-- A reader succeeds if the argument is bound and can be read. -/
theorem extract_eq_ok_iff {reader : Reader α} {bindings : Bindings} {element : α} :
    reader.extract bindings = .ok element ↔
      ∃ value, bindings.get? reader.parameter.name = some value ∧
        reader.read? value = some element := by
  rw [extract, ← Option.bind_eq_some_iff]
  cases (bindings.get? reader.parameter.name).bind reader.read? with
  | some found => simp
  | none => simp

end Reader

namespace Readers

variable {ρ φ : Type}

/-- Readers of the parameters that their host types ask for. -/
def Typed {φ : Type} : Readers ρ φ → Prop
  | nil => True
  | cons reader rest => reader.Typed ∧ rest.Typed

/-- Readers of mandatory parameters, all of whose values can be read. -/
def Total {φ : Type} : Readers ρ φ → Prop
  | nil => True
  | cons reader rest => reader.Total ∧ rest.Total

/-- A host function comes to a result if it is applied to the readings of the bound arguments, from
the first parameter to the last. -/
def Applied {φ : Type} : Readers ρ φ → φ → Bindings → ρ → Prop
  | nil, value, _, result => value = result
  | cons reader rest, f, bindings, result =>
    ∃ value element, bindings.get? reader.parameter.name = some value ∧
      reader.read? value = some element ∧ rest.Applied (f element) bindings result

/-- Typed readers are total, one by one. -/
theorem Typed.total {readers : Readers ρ φ} (typed : readers.Typed) : readers.Total := by
  induction readers with
  | nil => trivial
  | cons reader rest ih => exact ⟨typed.1.total, ih typed.2⟩

/-- A host function is called as it should be. -/
theorem call_eq_ok_iff {readers : Readers ρ φ} {f : φ} {bindings : Bindings} {result : ρ} :
    readers.call f bindings = .ok result ↔ readers.Applied f bindings result := by
  induction readers with
  | nil => simp [call, Applied]
  | cons reader rest ih =>
    constructor
    · intro h
      unfold call at h
      split at h
      · next element hextract =>
        obtain ⟨value, hbound, hread⟩ := Reader.extract_eq_ok_iff.mp hextract
        exact ⟨value, element, hbound, hread, ih.mp h⟩
      · cases h
    · rintro ⟨value, element, hbound, hread, happlied⟩
      have hextract := Reader.extract_eq_ok_iff.mpr ⟨value, hbound, hread⟩
      rw [call, hextract]
      exact ih.mpr happlied

/-- If all mandatory parameters are bound to values of their types, the arguments can be read. -/
theorem Total.exists_applied {readers : Readers ρ φ} (total : readers.Total) {bindings : Bindings}
    (bound : ∀ parameter ∈ readers.parameters, parameter.missing = .mandatory →
      ∃ value, bindings.get? parameter.name = some value ∧ parameter.accepts value = true)
    (f : φ) : ∃ result, readers.Applied f bindings result := by
  induction readers with
  | nil => exact ⟨f, rfl⟩
  | cons reader rest ih =>
    obtain ⟨hreader, hrest⟩ := total
    obtain ⟨hfirst, hothers⟩ := List.forall_mem_cons.mp bound
    obtain ⟨value, hbound, haccepts⟩ := hfirst hreader.mandatory
    obtain ⟨element, hread⟩ := hreader.reads value haccepts
    obtain ⟨result, happlied⟩ := ih hrest hothers (f element)
    exact ⟨result, value, element, hbound, hread, happlied⟩

end Readers

/-! ### Bound calls -/

section Binding

variable {function : Function} {arguments : List (Argument Value)} {bindings : Bindings}

/-- A mandatory parameter is bound to a value of its type. -/
theorem Function.exists_accepted (distinct : (function.parameters.map Parameter.name).Nodup)
    (bound : function.bind? arguments = some bindings) {parameter : Parameter}
    (hmem : parameter ∈ function.parameters) (mandatory : parameter.missing = .mandatory) :
    ∃ value, bindings.get? parameter.name = some value ∧ parameter.accepts value = true := by
  have hseating := seating_seat distinct bound
  obtain ⟨slot, rfl⟩ := List.get_of_mem hmem
  obtain ⟨place, hseat⟩ := not_forall_not.mp (fun hfree => hseating.mandatory slot hfree mandatory)
  have hvalue := hseating.bound hseat
  exact ⟨_, hvalue, hseating.accepted slot _ hvalue⟩

/-- A named argument of a function that leaves nothing over is bound to its name. -/
theorem Function.get?_of_named (distinct : (function.parameters.map Parameter.name).Nodup)
    (fixed : function.variadic = false) {name : String} {value : Value}
    (bound : function.bind? (.named name value :: arguments) = some bindings) :
    bindings.get? name = some value := by
  have hseating := seating_seat distinct bound
  obtain ⟨hseated, -⟩ := (Function.bind?_eq_some_iff distinct).mp bound
  let first : Fin (.named name value :: arguments : List (Argument Value)).length :=
    ⟨0, Nat.zero_lt_succ _⟩
  obtain ⟨slot, hseat⟩ := Option.ne_none_iff_exists'.mp (hseated fixed first)
  have hname : (some name : Option String) = some (function.parameters.get slot).name :=
    (hseating.named hseat).resolve_left nofun
  rw [Option.some.inj hname]
  exact hseating.bound hseat

end Binding

/-- The state after a native body has left some lines. -/
def State.noting (state : State) (lines : List String) : State :=
  { state with trace := (lines.map Event.noted).reverse ++ state.trace }

/-- The routine leaves its lines and comes to its outcome. -/
theorem runRoutine_notes (perform : Evaluator) (context : Context) (function : Function)
    (lines : List String) (outcome : Outcome Value) (state : State) :
    runRoutine perform context function (.notes lines (.done outcome)) state =
      (some outcome, state.noting lines) := by
  induction lines generalizing state with
  | nil => rfl
  | cons line lines ih =>
    have hnoting : state.noting (line :: lines) = (state.log (.noted line)).noting lines := by
      simp [State.noting, State.log]
    rw [hnoting]
    exact ih (state.log (.noted line))

/-- However a function is called with bindings of its own, the call succeeds with the value that a
closure has for them.  Until then nothing has happened but that the call was asked for and entered,
that the body started, and that it left the lines of the closure. -/
def Function.RunsClosure (function : Function) (closure : Bindings → List String → Value → Prop) :
    Prop :=
  ∀ arguments bindings, function.bind? arguments = some bindings →
    ∃ lines value, closure bindings lines value ∧
      ∀ (fuel : Nat) (lookup : Option Lookup) (caller : Context) (state : State),
        caller.admits state.store function = true →
          invokeObject (perform (fuel + 1)) lookup caller function bindings state =
            (some (.success value), ((state.called lookup caller function).log
              (.began (caller.calleeAt state.store function) function)).noting lines)

/-- A native body runs a closure if its routines say so. -/
theorem Function.runsClosure_of_native {function : Function} {routine : Bindings → Routine}
    {closure : Bindings → List String → Value → Prop} (native : function.body = .native routine)
    (h : ∀ arguments bindings, function.bind? arguments = some bindings →
      ∃ lines value, closure bindings lines value ∧
        routine bindings = .notes lines (.done (.success value))) :
    function.RunsClosure closure := by
  intro arguments bindings bound
  obtain ⟨lines, value, hclosure, hroutine⟩ := h arguments bindings bound
  refine ⟨lines, value, hclosure, ?_⟩
  intro fuel lookup caller state admits
  obtain ⟨permits, derived⟩ := Context.admits_iff.mp admits
  have hbody : ∀ (callee : Context) (reached : State),
      runBody (perform fuel) callee function bindings reached =
        (some (.success value), reached.noting lines) := by
    intro callee reached
    rw [runBody, native]
    show runRoutine _ _ _ (routine bindings) reached = _
    rw [hroutine, runRoutine_notes]
  rw [invokeObject_of_permits _ _ _ _ permits derived]
  exact hbody _ _

/-! ### Registered functions -/

/-- A registered function leaves the lines of its result and returns its value. -/
def returned {ρ : Type} [HostResult ρ] (result : ρ) : List String × Value :=
  (HostResult.lines result, HostResult.value result)

/-- A registered procedure leaves its lines and returns undefined. -/
def noted (lines : List String) : List String × Value :=
  (lines, .undefined)

section Host

variable {ρ φ : Type} {readers : Readers ρ φ} {finish : ρ → List String × Value}

/-- Calls a host function, and goes on with what becomes of its result. -/
def Readers.routine (readers : Readers ρ φ) (finish : ρ → List String × Value) (f : φ)
    (bindings : Bindings) : Routine :=
  match readers.call f bindings with
  | .ok result => .notes (finish result).1 (.done (.success (finish result).2))
  | .error reason => .done (.failure reason)

/-- The function that a host function is registered as. -/
def hostFunction (id : Nat) (name : String) (readers : Readers ρ φ)
    (finish : ρ → List String × Value) (f : φ) : Function :=
  ⟨id, name, readers.parameters, false, .native (readers.routine finish f)⟩

/-- The lines and the value that a host function comes to on the readings of the bound arguments. -/
def Readers.Yields (readers : Readers ρ φ) (finish : ρ → List String × Value) (f : φ)
    (bindings : Bindings) (lines : List String) (value : Value) : Prop :=
  ∃ result, readers.Applied f bindings result ∧ finish result = (lines, value)

/-- All arguments of a bound call are read. -/
theorem hostFunction_runsClosure (total : readers.Total)
    (distinct : (readers.parameters.map Parameter.name).Nodup) (id : Nat) (name : String) (f : φ) :
    (hostFunction id name readers finish f).RunsClosure (readers.Yields finish f) := by
  refine Function.runsClosure_of_native rfl (fun arguments bindings bound => ?_)
  obtain ⟨result, happlied⟩ := total.exists_applied
    (fun parameter hmem => Function.exists_accepted distinct bound hmem) f
  refine ⟨(finish result).1, (finish result).2, ⟨result, happlied, rfl⟩, ?_⟩
  rw [Readers.routine, Readers.call_eq_ok_iff.mpr happlied]

end Host

/-- A registration gives a function the next identity and registers it under its own name. -/
def Context.Registers (context : Context) (global : Bool) (registration : Access (Outcome Unit))
    (function : Nat → Function) : Prop :=
  ∀ state : State, registration state = context.registerOwn global (function state.nextFunction)
    { state with nextFunction := state.nextFunction + 1 }

section Registers

variable {ρ φ : Type} (context : Context) (global : Bool) (name : String)

/-- A native function with the routine of a host function is registered as that function. -/
theorem Context.registers_registerNative {readers : Readers ρ φ}
    {finish : ρ → List String × Value} {f : φ} {routine : Bindings → Routine}
    (h : ∀ bindings, routine bindings = readers.routine finish f bindings) :
    context.Registers global (context.registerNative global name readers.parameters routine)
      (fun id => hostFunction id name readers finish f) := by
  obtain rfl : routine = readers.routine finish f := funext h
  exact fun _ => rfl

/-- A host function is registered as a function that returns its result. -/
theorem Context.registers_registerFunction [HostResult ρ] (readers : Readers ρ φ) (f : φ) :
    context.Registers global (context.registerFunction global name readers f)
      (fun id => hostFunction id name readers returned f) := by
  refine context.registers_registerNative global name (fun bindings => ?_)
  unfold Readers.routine
  cases readers.call f bindings with
  | ok result => rfl
  | error reason => rfl

/-- A host procedure is registered as a function that notes its lines. -/
theorem Context.registers_registerProcedure (readers : Readers (List String) φ) (f : φ) :
    context.Registers global (context.registerProcedure global name readers f)
      (fun id => hostFunction id name readers noted f) := by
  refine context.registers_registerNative global name (fun bindings => ?_)
  unfold Readers.routine
  cases readers.call f bindings with
  | ok lines => rfl
  | error reason => rfl

end Registers

/-! ### Calls through a receiver -/

/-- If an attempt is a call, then with bindings of the arguments, and its answer is the outcome of
that call, made after the question whether the function may be tried. -/
def Attempt.Made (perform : Evaluator) (self : Context) (key : String)
    (arguments : List (Argument Value)) (attempt : Attempt) : Prop :=
  ∀ bindings outcome, attempt.trial = .called bindings outcome →
    attempt.function.bind? arguments = some bindings ∧
      ∃ final, invokeObject perform (some ⟨key, attempt.scope, attempt.position⟩) self
        attempt.function bindings
        (attempt.state.asked attempt.scope (.tryFunction key attempt.function)) =
          (some outcome, final)

section Made

variable {perform : Evaluator} {context scope : Context} {key : String} {keys : List String}
  {arguments : List (Argument Value)} {functions : List Function} {position : Nat}
  {state final : State} {attempts : List Attempt} {entries : List (Context × State)}
  {stop : Option Failure} {rounds : List Round} {outcome : Outcome Value}

/-- Attempts in one scope are made. -/
theorem Tries.made
    (h : Tries perform context key arguments scope functions position state attempts final) :
    ∀ attempt ∈ attempts, attempt.Made perform context key arguments := by
  induction h with
  | nil => exact fun _ hmem => absurd hmem List.not_mem_nil
  | denied _ _ ih => exact List.forall_mem_cons.mpr ⟨nofun, ih⟩
  | unfit _ _ _ ih => exact List.forall_mem_cons.mpr ⟨nofun, ih⟩
  | failed _ bound call _ _ ih =>
    refine List.forall_mem_cons.mpr ⟨?_, ih⟩
    intro _ _ hcalled
    cases hcalled
    exact ⟨bound, _, call⟩
  | succeeded _ bound call =>
    refine List.forall_mem_cons.mpr ⟨?_, ?_⟩
    · intro _ _ hcalled
      cases hcalled
      exact ⟨bound, _, call⟩
    · intro attempt hmem
      obtain ⟨candidate, -, rfl⟩ := List.mem_map.mp hmem
      exact nofun

/-- Attempts of a search are made. -/
theorem Searches.made
    (h : Searches perform context key arguments scope state entries attempts stop final) :
    ∀ attempt ∈ attempts, attempt.Made perform context key arguments := by
  induction h with
  | found tries => exact tries.made
  | outermost tries => exact tries.made
  | kept tries => exact tries.made
  | barred tries => exact tries.made
  | outward tries _ _ _ _ ih => exact List.forall_mem_append.mpr ⟨tries.made, ih⟩

/-- Attempts of a whole search are made. -/
theorem Resolves.made
    (h : Resolves perform context key arguments scope state entries attempts stop final) :
    ∀ attempt ∈ attempts, attempt.Made perform context key arguments := by
  cases h with
  | refused => exact fun _ hmem => absurd hmem List.not_mem_nil
  | asked _ search => exact search.made

/-- Attempts of all rounds are made. -/
theorem Rounds.made (h : Rounds perform context arguments keys state rounds final) :
    ∀ round ∈ rounds, ∀ attempt ∈ round.attempts,
      attempt.Made perform context round.key arguments := by
  induction h with
  | nil => exact fun _ hmem => absurd hmem List.not_mem_nil
  | found _ resolves _ => exact List.forall_mem_singleton.mpr resolves.made
  | next resolves _ _ ih => exact List.forall_mem_cons.mpr ⟨resolves.made, ih⟩

/-- The first success among the answers of rounds is that of the first attempt that succeeds. -/
theorem findSome?_success?_map_answer (rounds : List Round) :
    (rounds.map Round.answer).findSome? Outcome.success? =
      (rounds.flatMap Round.attempts).findSome? Attempt.success? := by
  induction rounds with
  | nil => rfl
  | cons round rounds ih =>
    rw [List.map_cons, List.findSome?_cons, round.success?_answer, List.flatMap_cons,
      List.findSome?_append, ih]
    cases round.attempts.findSome? Attempt.success? with
    | some value => rfl
    | none => rfl

/-- A look-up has the value of every call of its that succeeds, as no body is entered after a
success. -/
theorem Dispatch.outcome_eq
    (h : Dispatch perform context arguments keys state final outcome rounds) {round : Round}
    (hround : round ∈ rounds) {attempt : Attempt} (hattempt : attempt ∈ round.attempts)
    {bindings : Bindings} {value : Value}
    (called : attempt.trial = .called bindings (.success value))
    (admits : context.admits attempt.state.store attempt.function = true) :
    outcome = .success value := by
  obtain ⟨before, after, hsplit⟩ :=
    List.append_of_mem (List.mem_flatMap.mpr ⟨round, hround, hattempt⟩)
  have hentrance : ∀ key, attempt.entrance? context key ≠ none := by
    intro key
    simp [Attempt.entrance?, called, admits]
  have hearlier : ∀ earlier ∈ before, earlier.success? = none := by
    intro earlier hmem
    have hended := h.ended
    rw [hsplit, List.pairwise_append] at hended
    refine Classical.byContradiction (fun hsuccess => ?_)
    exact hentrance "" (hended.2.2 earlier hmem attempt List.mem_cons_self hsuccess "")
  have hvalue : attempt.success? = some value := by
    simp only [Attempt.success?, called]
  have hsuccess : outcome.success? = some value := by
    rw [h.decided, verdict, success?_verdictAfter, findSome?_success?_map_answer, hsplit,
      List.findSome?_append, List.findSome?_eq_none_iff.mpr hearlier, List.findSome?_cons, hvalue]
    rfl
  cases outcome with
  | success found => exact congrArg Outcome.success (Option.some.inj hsuccess)
  | empty => cases hsuccess
  | failure reason => cases hsuccess

end Made

/-- However a function comes to be called through a receiver, it is given that receiver, whatever
arguments the call site passes.  If the caller admits the call, then a closure is run on the
receiver, and its value is that of the whole look-up. -/
def Function.ServesReceiver (function : Function)
    (closure : Value → Bindings → List String → Value → Prop) : Prop :=
  ∀ (fuel : Nat) (context : Context) (receiver : Value) (name : String)
    (arguments : List (Argument Value)) (state final : State) (outcome : Outcome Value),
    invokeMemberFunction (perform (fuel + 1)) context receiver name arguments state =
      (some outcome, final) →
    Supplied (perform (fuel + 1)) context receiver state outcome final (fun self reached =>
      (∃ reason, context.decision reached.store (.askForMember self.type name) =
          .failure reason ∧
        final = reached.asked context (.askForMember self.type name)) ∨
      ∃ rounds, Dispatch (perform (fuel + 1)) context (.named selfArgument self :: arguments)
          (self.type.hierarchy.map (fun typeName =>
            Text.key (MemberKey.text ⟨.function, typeName, name⟩)))
          (reached.asked context (.askForMember self.type name)) final outcome rounds ∧
        ∀ round ∈ rounds, ∀ attempt ∈ round.attempts, attempt.function = function →
          ∀ bindings answer, attempt.trial = .called bindings answer →
            bindings.get? selfArgument = some self ∧
              (context.admits attempt.state.store function = true → ∃ lines value,
                closure self bindings lines value ∧ answer = .success value ∧ outcome = answer))

/-- A function that runs a closure and leaves nothing over serves the receiver. -/
theorem Function.servesReceiver {function : Function}
    {closure : Bindings → List String → Value → Prop}
    {onReceiver : Value → Bindings → List String → Value → Prop}
    (distinct : (function.parameters.map Parameter.name).Nodup)
    (fixed : function.variadic = false) (runs : function.RunsClosure closure)
    (receives : ∀ {self bindings lines value}, bindings.get? selfArgument = some self →
      closure bindings lines value → onReceiver self bindings lines value) :
    function.ServesReceiver onReceiver := by
  intro fuel context receiver name arguments state final outcome h
  have hsupplied := supplied_of_bind h rfl (fun _ => rfl)
  refine hsupplied.imp (fun self reached hmember => ?_)
  rcases dispatched_of_invokeMember hmember with
    ⟨reason, refused, -, hfinal⟩ | ⟨-, rounds, hdispatch⟩
  · exact .inl ⟨reason, refused, hfinal⟩
  · refine .inr ⟨rounds, hdispatch, ?_⟩
    rintro round hround attempt hattempt rfl bindings answer hcalled
    obtain ⟨hbound, after, hinvoked⟩ :=
      hdispatch.resolved.made round hround attempt hattempt bindings answer hcalled
    have hself := Function.get?_of_named distinct fixed hbound
    refine ⟨hself, fun admits => ?_⟩
    obtain ⟨lines, value, hclosure, hruns⟩ := runs _ bindings hbound
    rw [hruns fuel _ context (attempt.state.asked ..) admits] at hinvoked
    obtain rfl : .success value = answer := Option.some.inj (congrArg Prod.fst hinvoked)
    exact ⟨lines, value, receives hself hclosure, rfl,
      hdispatch.outcome_eq hround hattempt hcalled admits⟩

/-! ### Registered members -/

section Member

variable {ρ φ α : Type} [Readable α] {typeName : String} {readers : Readers ρ φ}
  {finish : ρ → List String × Value} {f : α → φ}

/-- The first argument of a member is the reading of its receiver. -/
theorem Readers.yields_receiver {bindings : Bindings} {self value : Value} {lines : List String}
    (bound : bindings.get? selfArgument = some self)
    (yields : (Readers.cons (.receiver α typeName) readers).Yields finish f bindings lines value) :
    ∃ element : α, Readable.read? self = some element ∧
      readers.Yields finish (f element) bindings lines value := by
  obtain ⟨result, ⟨receiver, element, hreceiver, hread, happlied⟩, hfinish⟩ := yields
  obtain rfl : self = receiver := Option.some.inj (bound.symm.trans hreceiver)
  exact ⟨element, hread, result, happlied, hfinish⟩

/-- A member runs its closure, on the reading of its receiver. -/
theorem member_runsClosure_and_servesReceiver (covers : Readable.Covers α typeName)
    (typed : readers.Typed) (distinct : (readers.parameters.map Parameter.name).Nodup)
    (apart : selfArgument ∉ readers.parameters.map Parameter.name) (id : Nat) (name : String) :
    let all := Readers.cons (.receiver α typeName) readers
    (hostFunction id name all finish f).RunsClosure (all.Yields finish f) ∧
      (hostFunction id name all finish f).ServesReceiver (fun self bindings lines value =>
        ∃ element : α, Readable.read? self = some element ∧
          readers.Yields finish (f element) bindings lines value) := by
  intro all
  have htotal : all.Total := ⟨Reader.total_receiver covers, typed.total⟩
  have hdistinct : (all.parameters.map Parameter.name).Nodup :=
    List.nodup_cons.mpr ⟨apart, distinct⟩
  have hruns : (hostFunction id name all finish f).RunsClosure (all.Yields finish f) :=
    hostFunction_runsClosure htotal hdistinct id name f
  exact ⟨hruns, Function.servesReceiver hdistinct rfl hruns Readers.yields_receiver⟩

end Member

/-- Typed registration is safe from the call site to the host.

Every host type reads all values of the type that it asks for.  So if a host function is registered
with the parameters that its host types ask for, under different names, then every call of it that
binds its arguments and is admitted applies it once to the readings of what is bound, leaves the
lines of its result, and succeeds with its value; a procedure leaves its lines and succeeds with
undefined.  An argument that cannot be read does not occur.

The same holds of members whose explicit parameters are not called like the receiver, if the type of
the receiver reads all values of the type that they are registered for.  However they are called
through a receiver, their first argument is the reading of that receiver. -/
theorem Context.typed_registration :
    (Readable.Covers Int64 (Readable.type Int64).name ∧
      Readable.Covers Float (Readable.type Float).name ∧
      Readable.Covers Number (Readable.type Number).name ∧
      Readable.Covers Bool (Readable.type Bool).name ∧
      Readable.Covers Char (Readable.type Char).name ∧
      Readable.Covers String (Readable.type String).name ∧
      Readable.Covers Sequence (Readable.type Sequence).name ∧
      Readable.Covers Value (Readable.type Value).name) ∧
    (∀ {ρ φ : Type} [HostResult ρ] {readers : Readers ρ φ}, readers.Typed →
      (readers.parameters.map Parameter.name).Nodup →
      ∀ (context : Context) (global : Bool) (name : String) (f : φ),
        context.Registers global (context.registerFunction global name readers f)
          (fun id => hostFunction id name readers returned f) ∧
        ∀ id, (hostFunction id name readers returned f).RunsClosure
          (readers.Yields returned f)) ∧
    (∀ {φ : Type} {readers : Readers (List String) φ}, readers.Typed →
      (readers.parameters.map Parameter.name).Nodup →
      ∀ (context : Context) (global : Bool) (name : String) (f : φ),
        context.Registers global (context.registerProcedure global name readers f)
          (fun id => hostFunction id name readers noted f) ∧
        ∀ id, (hostFunction id name readers noted f).RunsClosure (readers.Yields noted f)) ∧
    (∀ {ρ φ α : Type} [HostResult ρ] [Readable α] {readers : Readers ρ φ} {typeName : String},
      Readable.Covers α typeName → readers.Typed →
      (readers.parameters.map Parameter.name).Nodup →
      selfArgument ∉ readers.parameters.map Parameter.name →
      ∀ (context : Context) (global : Bool) (name : String) (f : α → φ),
        let all := Readers.cons (.receiver α typeName) readers
        let member := fun id =>
          hostFunction id (MemberKey.text ⟨.function, typeName, name⟩) all returned f
        context.Registers global (context.registerMember global typeName name readers f) member ∧
        ∀ id, (member id).RunsClosure (all.Yields returned f) ∧
          (member id).ServesReceiver (fun self bindings lines value =>
            ∃ element : α, Readable.read? self = some element ∧
              readers.Yields returned (f element) bindings lines value)) ∧
    (∀ {φ α : Type} [Readable α] {readers : Readers (List String) φ} {typeName : String},
      Readable.Covers α typeName → readers.Typed →
      (readers.parameters.map Parameter.name).Nodup →
      selfArgument ∉ readers.parameters.map Parameter.name →
      ∀ (context : Context) (global : Bool) (name : String) (f : α → φ),
        let all := Readers.cons (.receiver α typeName) readers
        let member := fun id =>
          hostFunction id (MemberKey.text ⟨.function, typeName, name⟩) all noted f
        context.Registers global (context.registerMemberProcedure global typeName name readers f)
          member ∧
        ∀ id, (member id).RunsClosure (all.Yields noted f) ∧
          (member id).ServesReceiver (fun self bindings lines value =>
            ∃ element : α, Readable.read? self = some element ∧
              readers.Yields noted (f element) bindings lines value)) := by
  refine ⟨⟨?_, ?_, ?_, ?_, ?_, ?_, ?_, ?_⟩, ?_, ?_, ?_, ?_⟩
  iterate 8 exact LawfulReadable.covers
  · intro ρ φ _ readers typed distinct context global name f
    exact ⟨context.registers_registerFunction global name readers f,
      fun id => hostFunction_runsClosure typed.total distinct id name f⟩
  · intro φ readers typed distinct context global name f
    exact ⟨context.registers_registerProcedure global name readers f,
      fun id => hostFunction_runsClosure typed.total distinct id name f⟩
  · intro ρ φ α _ _ readers typeName covers typed distinct apart context global name f all member
    exact ⟨context.registers_registerFunction global _ all f,
      fun id => member_runsClosure_and_servesReceiver covers typed distinct apart id _⟩
  · intro φ α _ readers typeName covers typed distinct apart context global name f all member
    exact ⟨context.registers_registerProcedure global _ all f,
      fun id => member_runsClosure_and_servesReceiver covers typed distinct apart id _⟩

/-- A number and an integer, as a list, with a line for the host. -/
def coupled (self : Number) (n : Int64) : Noted (List Value) :=
  ⟨["coupled"], [self.toValue, .int n]⟩

/-- The lines that a state has for the host, latest first. -/
def State.lines (state : State) : List String :=
  state.trace.filterMap (fun event =>
    match event with
    | .noted line => some line
    | _ => none)

/-- The member of numbers is called with an integer, which runs it once, and then with a receiver of
the call site's own on top, which it does not apply to. -/
theorem typed_registration_coupled :
    let readers : Readers (Noted (List Value)) (Int64 → Noted (List Value)) :=
      .cons (.of Int64 "n") .nil
    let member := fun id => hostFunction id "MemberFunction_Number_with"
      (.cons (.receiver Number "Number") readers) returned coupled
    let root := Context.root ⟨0, .global, .permissive, {}⟩
    let state := (root.registerMember false "Number" "with" readers coupled ⟨⟨#[{}]⟩, 0, []⟩).2
    let call := fun arguments =>
      invokeMemberFunction (perform 2) root (.int 1) "with" arguments state
    Readable.Covers Number "Number" ∧ readers.Typed ∧
      (readers.parameters.map Parameter.name).Nodup ∧
      selfArgument ∉ readers.parameters.map Parameter.name ∧
      (member 0).ServesReceiver (fun self bindings lines value =>
        ∃ element : Number, Readable.read? self = some element ∧
          readers.Yields returned (coupled element) bindings lines value) ∧
      ((call [.positional (.int 2)]).1.bind Outcome.success?).map Value.text = some "[1, 2]" ∧
      (call [.positional (.int 2)]).2.lines = ["coupled"] ∧
      (call [.named selfArgument (.int 9), .positional (.int 2)]).1.map Outcome.isEmpty =
        some true := by
  intro readers member root state call
  have hcovers : Readable.Covers Number "Number" := LawfulReadable.covers
  have htyped : readers.Typed := ⟨⟨_, inferInstance, "n", rfl⟩, trivial⟩
  have hdistinct : (readers.parameters.map Parameter.name).Nodup := by decide
  have hapart : selfArgument ∉ readers.parameters.map Parameter.name := by decide
  obtain ⟨-, -, -, hmember, -⟩ := Context.typed_registration
  obtain ⟨-, hserves⟩ := hmember hcovers htyped hdistinct hapart root false "with" coupled
  exact ⟨hcovers, htyped, hdistinct, hapart, (hserves 0).2, by decide +kernel, by decide +kernel,
    by decide +kernel⟩

end GuardedScript

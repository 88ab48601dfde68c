import GuardedScript.Proofs.Inheritance

/-!
# What conversions can do

A built-in conversion to a type gives a value of that type.  All else follows from this
(`type_convert?`) and from the rule that a value of a type converts to it unchanged: converting once
more changes nothing, and a name that no built-in type has is the name of no conversion.

The conversion of a value in a context first resolves it.  The registered conversions come last:
they are turned to if and only if no built-in one applies, unless the value is a sentinel that may
not convert (`Value.coerce_sound`).
-/

set_option autoImplicit false

namespace GuardedScript

namespace Value

/-! ### The types of converted values -/

section Types

variable {value : Value} {text target : String}

/-- The neutral value for a type is of that type. -/
theorem type_neutral? (h : neutral? text target = some value) : value.type.is target = true := by
  unfold neutral? at h
  split at h <;> cases h <;> rfl

/-- What an integer converts to is of the target type. -/
theorem type_intTo? {n : Int64} (h : intTo? n target = some value) :
    value.type.is target = true := by
  unfold intTo? at h
  split at h
  · cases h; rfl
  · cases h; rfl
  · cases h; rfl
  · obtain ⟨c, -, rfl⟩ := Option.map_eq_some_iff.mp h
    rfl
  · cases h

/-- What a double converts to is of the target type. -/
theorem type_doubleTo? {d : Float} (h : doubleTo? d target = some value) :
    value.type.is target = true := by
  unfold doubleTo? at h
  split at h
  · obtain ⟨n, -, rfl⟩ := Option.map_eq_some_iff.mp h
    rfl
  · cases h; rfl
  · cases h; rfl
  · obtain ⟨n, -, hn⟩ := Option.bind_eq_some_iff.mp h
    exact type_intTo? hn
  · cases h

/-- What a character converts to is of the target type. -/
theorem type_charTo? {c : Char} (h : charTo? c target = some value) :
    value.type.is target = true := by
  unfold charTo? at h
  split at h <;> cases h <;> rfl

/-- What a string converts to is of the target type. -/
theorem type_stringTo? {s : String} (h : stringTo? s target = some value) :
    value.type.is target = true := by
  simp only [stringTo?] at h
  split at h
  · obtain ⟨n, -, rfl⟩ := Option.map_eq_some_iff.mp h
    rfl
  · obtain ⟨d, -, rfl⟩ := Option.map_eq_some_iff.mp h
    rfl
  · split at h
    · cases h; rfl
    · obtain ⟨d, -, rfl⟩ := Option.map_eq_some_iff.mp h
      rfl
  · split at h <;> cases h <;> rfl
  · split at h <;> cases h
    rfl
  · cases h

/-- What a boolean converts to is of the target type. -/
theorem type_booleanTo? {b : Bool} (h : booleanTo? b target = some value) :
    value.type.is target = true := by
  unfold booleanTo? at h
  split at h <;> cases h <;> rfl

/-- What a value is converted to is of the type that it was converted to. -/
theorem type_convert? {options : Options} {source : Value}
    (h : source.convert? options target = some value) : value.type.is target = true := by
  cases source with
  | null =>
    simp only [convert?] at h
    split at h
    · exact type_neutral? h
    · cases h
  | undefined =>
    simp only [convert?] at h
    split at h
    · exact type_neutral? h
    · cases h
  | int n => exact type_intTo? h
  | double d => exact type_doubleTo? h
  | char c => exact type_charTo? h
  | string s => exact type_stringTo? h
  | boolean b => exact type_booleanTo? h
  | array dynamic items =>
    simp only [convert?] at h
    split at h
    · next htarget =>
      cases h
      rw [eq_of_beq htarget]
      rfl
    · cases h
  | reference _ | property _ _ | call _ _ | memberCall _ _ _ | expression _ _ => cases h

end Types

/-! ### Built-in conversions -/

/-- A value that stands for a computation: a variable or property read, a call, or a chain. -/
def isLazy : Value → Bool
  | reference _ | property _ _ | call _ _ | memberCall _ _ _ | expression _ _ => true
  | _ => false

/-- What is promised of the built-in conversion of a value to a type. -/
structure Converts (value : Value) (options : Options) (target : ValueType) : Prop where
  never_fails : ∀ reason, value.coerce options target ≠ .failure reason
  sound : ∀ result, value.coerce options target = .success result →
    result.type.is target.name = true
  /-- Converting once more gives the very same value. -/
  settles : ∀ result, value.coerce options target = .success result →
    ∀ other, result.coerce other target = .success result
  keeps : value.type.is target.name = true → value.coerce options target = .success value
  unknown : target.name ∉ ValueType.builtins.map ValueType.name →
    value.coerce options target = .empty
  /-- Lazy values convert to their own type and to the top of all types, and to no other. -/
  lazy : value.isLazy = true → ∀ result, value.coerce options target = .success result →
    target.name = "Runtime" ∨ target.name = "Object"
  null_option : value ≠ null → ∀ coercible,
    value.coerce { options with nullCoercible := coercible } target = value.coerce options target
  undefined_option : value ≠ undefined → ∀ coercible,
    value.coerce { options with undefinedCoercible := coercible } target =
      value.coerce options target

variable {value : Value} {options : Options} {target : ValueType}

/-- A value of the target type is given back. -/
theorem coerce_of_is (h : value.type.is target.name = true) :
    value.coerce options target = .success value :=
  if_pos h

/-- Any other value is converted by the rules for its kind. -/
theorem coerce_of_not_is (h : value.type.is target.name = false) :
    value.coerce options target = .ofOption (value.convert? options target.name) :=
  if_neg (Bool.not_eq_true _ ▸ h)

/-- A conversion succeeds because the value is of the type, or by a rule for its constructor. -/
theorem coerce_eq_success_iff {result : Value} :
    value.coerce options target = .success result ↔
      (value.type.is target.name = true ∧ result = value) ∨
      (value.type.is target.name = false ∧ value.convert? options target.name = some result) := by
  cases his : value.type.is target.name with
  | true =>
    rw [coerce_of_is his]
    simp [eq_comm]
  | false =>
    rw [coerce_of_not_is his]
    cases value.convert? options target.name <;> simp [Outcome.ofOption]

/-- What a conversion gives is of the target type. -/
theorem type_coerce {result : Value} (h : value.coerce options target = .success result) :
    result.type.is target.name = true := by
  rcases coerce_eq_success_iff.mp h with ⟨his, rfl⟩ | ⟨-, hconvert⟩
  · exact his
  · exact type_convert? hconvert

/-- Built-in conversions do not fail. -/
theorem coerce_ne_failure (reason : Failure) : value.coerce options target ≠ .failure reason := by
  cases his : value.type.is target.name with
  | true =>
    rw [coerce_of_is his]
    exact nofun
  | false =>
    rw [coerce_of_not_is his]
    cases value.convert? options target.name <;> exact nofun

/-- Without a success there is nothing. -/
theorem coerce_eq_empty (h : ∀ result, value.coerce options target ≠ .success result) :
    value.coerce options target = .empty := by
  cases hcoerce : value.coerce options target with
  | success result => exact absurd hcoerce (h result)
  | empty => rfl
  | failure reason => exact absurd hcoerce (coerce_ne_failure reason)

/-- The types of values are built in. -/
theorem mem_builtins_of_is {name : String} (h : value.type.is name = true) :
    name ∈ ValueType.builtins.map ValueType.name := by
  have hmem : name ∈ value.type.hierarchy := List.contains_iff_mem.mp h
  -- every name in the hierarchy of a built-in type is the name of one
  have hclosed : ∀ type ∈ ValueType.builtins, ∀ name ∈ type.hierarchy,
      name ∈ ValueType.builtins.map ValueType.name := by decide
  have hbuiltin : value.type ∈ ValueType.builtins := by
    cases value <;> simp [type, ValueType.builtins]
  exact hclosed _ hbuiltin _ hmem

/-- There are no rules for lazy values. -/
theorem convert?_of_isLazy (h : value.isLazy = true) (name : String) :
    value.convert? options name = none := by
  cases value with
  | reference _ | property _ _ | call _ _ | memberCall _ _ _ | expression _ _ => rfl
  | _ => cases h

/-- A lazy value has the type of all values. -/
theorem type_of_isLazy (h : value.isLazy = true) : value.type = .runtime := by
  cases value with
  | reference _ | property _ _ | call _ _ | memberCall _ _ _ | expression _ _ => rfl
  | _ => cases h

/-- An option counts for its own sentinel only. -/
theorem convert?_congr {other : Options}
    (hnull : value = null → options.nullCoercible = other.nullCoercible)
    (hundefined : value = undefined → options.undefinedCoercible = other.undefinedCoercible)
    (name : String) : value.convert? options name = value.convert? other name := by
  cases value with
  | null => simp only [convert?, hnull rfl]
  | undefined => simp only [convert?, hundefined rfl]
  | _ => rfl

/-- An option matters for the sentinel that it is about, and for no other value. -/
theorem coerce_congr {other : Options}
    (hnull : value = null → options.nullCoercible = other.nullCoercible)
    (hundefined : value = undefined → options.undefinedCoercible = other.undefinedCoercible) :
    value.coerce options target = value.coerce other target := by
  unfold coerce
  rw [convert?_congr hnull hundefined]

/-- Built-in conversions are sound, and settle at once. -/
theorem converts (value : Value) (options : Options) (target : ValueType) :
    value.Converts options target where
  never_fails := coerce_ne_failure
  sound _ := type_coerce
  settles _ h _ := coerce_of_is (type_coerce h)
  keeps := coerce_of_is
  unknown h := coerce_eq_empty (fun _ hsuccess => h (mem_builtins_of_is (type_coerce hsuccess)))
  lazy := by
    intro hlazy result h
    rcases coerce_eq_success_iff.mp h with ⟨his, -⟩ | ⟨-, hconvert⟩
    · rw [type_of_isLazy hlazy] at his
      have hmem : target.name ∈ ValueType.runtime.hierarchy := List.contains_iff_mem.mp his
      simpa [ValueType.runtime, ValueType.ofNames, ValueType.objectName] using hmem
    · rw [convert?_of_isLazy hlazy] at hconvert
      cases hconvert
  null_option h _ := coerce_congr (fun hnull => absurd hnull h) (fun _ => rfl)
  undefined_option h _ := coerce_congr (fun _ => rfl) (fun hundefined => absurd hundefined h)

/-! ### Registered conversions -/

/-- A sentinel whose option is off. -/
def Blocked (options : Options) (value : Value) : Prop :=
  (value = null ∧ options.nullCoercible = false) ∨
    (value = undefined ∧ options.undefinedCoercible = false)

/-- A value is blocked if it is a sentinel whose option is off. -/
theorem isBlockedSentinel_iff : value.isBlockedSentinel options = true ↔ value.Blocked options := by
  cases value <;> simp [isBlockedSentinel, Blocked]

/-- A value is left to the registered conversions. -/
def LeftToCasts (options : Options) (target : ValueType) (value : Value) : Prop :=
  value.coerce options target = .empty ∧ ¬ value.Blocked options

end Value

/-- The question to the policy whether the conversions of a value may be looked for. -/
def castCheck (value : Value) (target : ValueType) : Check :=
  .askForCast value.type target

/-- The first thing done after a state was to ask the policy about the conversions of a value. -/
def CastsConsulted (context : Context) (value : Value) (target : ValueType)
    (reached final : State) : Prop :=
  ∃ events, final.trace = events ++ (reached.asked context (castCheck value target)).trace

/-- How the conversion of a value goes on after the value was resolved. -/
structure CastsLast (perform : Evaluator) (context : Context) (source value : Value)
    (target : ValueType) (state reached : State) : Prop where
  /-- The built-in conversion decides, and nothing else is done, -/
  native : ¬ value.LeftToCasts context.options target →
    convert perform context source target state =
      (some (value.coerce context.options target), reached)
  /-- or the policy refuses to look for conversions, -/
  refused : value.LeftToCasts context.options target → ∀ denial,
    context.decision reached.store (castCheck value target) = .failure denial →
    convert perform context source target state =
      (some (.failure ((Failure.accessDenied
        ("ask for cast '" ++ value.type.name ++ "' to '" ++ target.name ++ "'")).causedBy denial)),
        reached.asked context (castCheck value target))
  /-- or the conversions that are registered for the types of the value are called. -/
  permitted : value.LeftToCasts context.options target →
    context.Permits reached.store (castCheck value target) →
    convert perform context source target state =
      invokeOnTypes perform context .cast target.name [.named selfArgument value]
        value.type.hierarchy none (reached.asked context (castCheck value target))
  consulted_iff : CastsConsulted context value target reached
    (convert perform context source target state).2 ↔ value.LeftToCasts context.options target

section Casts

variable {perform : Evaluator} {context : Context} {source value : Value} {target : ValueType}
  {state reached : State}

/-- A value that needs no evaluation is cast as it is. -/
theorem castTo_of_fixed (h : value.needsEvaluation = false) :
    castTo perform context value target =
      invokeMember perform context (castCheck value target)
        ("ask for cast '" ++ value.type.name ++ "' to '" ++ target.name ++ "'") .cast value.type
        target.name [.named selfArgument value] := by
  unfold castTo resolve
  rw [h]
  rfl

/-- A value without a built-in conversion goes to the registered ones. -/
theorem convert_of_leftToCasts
    (resolved : resolve perform context source state = (some (.success value), reached))
    (fixed : value.needsEvaluation = false)
    (h : value.LeftToCasts context.options target) :
    convert perform context source target state =
      invokeMember perform context (castCheck value target)
        ("ask for cast '" ++ value.type.name ++ "' to '" ++ target.name ++ "'") .cast value.type
        target.name [.named selfArgument value] reached := by
  have hblocked : value.isBlockedSentinel context.options ≠ true :=
    fun hblocked => h.2 (Value.isBlockedSentinel_iff.mp hblocked)
  unfold convert
  rw [Run.bind_apply_of_some resolved]
  simp only [h.1, if_neg hblocked, castTo_of_fixed fixed]

/-- Any other value is settled once it is resolved. -/
theorem convert_of_not_leftToCasts
    (resolved : resolve perform context source state = (some (.success value), reached))
    (h : ¬ value.LeftToCasts context.options target) :
    convert perform context source target state =
      (some (value.coerce context.options target), reached) := by
  unfold convert
  rw [Run.bind_apply_of_some resolved]
  cases hcoerce : value.coerce context.options target with
  | success result =>
    simp only [hcoerce]
    rfl
  | failure reason => exact absurd hcoerce (Value.coerce_ne_failure reason)
  | empty =>
    have hblocked : value.isBlockedSentinel context.options = true := by
      refine Value.isBlockedSentinel_iff.mpr (Classical.not_not.mp (fun hfree => ?_))
      exact h ⟨hcoerce, hfree⟩
    simp only [hcoerce, hblocked, if_true]
    rfl

end Casts

/-- Calling a member on the types of a value only continues the trace. -/
theorem invokeOnTypes_leaves (fuel : Nat) (context : Context) (kind : MemberKind) (member : String)
    (arguments : List (Argument Value)) (typeNames : List String) (first : Option Failure)
    (state : State) :
    Leaves (fun _ => True) state
      (invokeOnTypes (perform fuel) context kind member arguments typeNames first state).2 := by
  have hdescends := inheritance_descends inherited_any
  obtain ⟨bodies, performs⟩ := hdescends.perform_holds fuel
  have hhosts : (inheritance inherited_any).Hosts context := trivial
  have hpasses : Terms.any.Passes arguments := fun _ _ => trivial
  have hinvoke := Discipline.holds_invokeOnTypes (hdescends.serves bodies performs) hhosts kind
    member hpasses typeNames first
  exact (hinvoke state trivial).1

/-- A conversion comes to the registered ones last. -/
theorem castsLast (fuel : Nat) {context : Context} {source value : Value} {state reached : State}
    (target : ValueType)
    (resolved : resolve (perform fuel) context source state = (some (.success value), reached))
    (fixed : value.needsEvaluation = false) :
    CastsLast (perform fuel) context source value target state reached where
  native := convert_of_not_leftToCasts resolved
  refused h denial hdenial := by
    rw [convert_of_leftToCasts resolved fixed h]
    exact Context.run_guarded_of_refused _ _ _ hdenial
  permitted h hpermits := by
    rw [convert_of_leftToCasts resolved fixed h]
    exact Context.run_guarded_of_permits _ _ _ hpermits
  consulted_iff := by
    constructor
    · rintro ⟨events, hevents⟩
      refine Classical.not_not.mp (fun h => ?_)
      -- the trace of a conversion that is decided already does not get longer
      rw [convert_of_not_leftToCasts resolved h] at hevents
      have hlength := congrArg List.length hevents
      simp only [State.trace_asked, List.length_append, List.length_cons] at hlength
      omega
    · intro h
      rw [convert_of_leftToCasts resolved fixed h]
      rcases context.refused_or_permits reached.store (castCheck value target) with
        ⟨denial, hdenial⟩ | hpermits
      · rw [invokeMember, Context.run_guarded_of_refused _ _ _ hdenial]
        exact ⟨[], rfl⟩
      · rw [invokeMember, Context.run_guarded_of_permits _ _ _ hpermits]
        obtain ⟨events, hevents, -⟩ := invokeOnTypes_leaves fuel context .cast target.name
          [.named selfArgument value] value.type.hierarchy none
          (reached.asked context (castCheck value target))
        exact ⟨events, hevents⟩

/-- Built-in conversions are sound and settle at once, and the registered ones come last.

To convert a value by a built-in rule never fails.  What it gives is of the type that it was
converted to and converts to that type as itself, under whatever options; a value that is of the
type already is given back.  There is no conversion to a type that is not built in, and none of a
lazy value but to the types that it has.  Each of the two options matters for its sentinel alone.

The conversion of a value in a context, if it resolves to one that needs no evaluation, consults the
policy and then the registered conversions if and only if there is no built-in conversion and the
value is no sentinel whose option is off.  In all other cases the built-in conversion is the answer,
and nothing is done beyond resolving the value. -/
theorem Value.coerce_sound (value : Value) (target : ValueType) :
    (∀ options, value.Converts options target) ∧
      ∀ (fuel : Nat) (context : Context) (source : Value) (state reached : State),
        resolve (perform fuel) context source state = (some (.success value), reached) →
        value.needsEvaluation = false →
        CastsLast (perform fuel) context source value target state reached :=
  ⟨fun options => value.converts options target,
    fun fuel _ _ _ _ resolved fixed => castsLast fuel target resolved fixed⟩

/-- A global context with a variable `price`. -/
def pricedState : State where
  store := ⟨#[⟨.ofList [("price", .int 5)], ∅⟩]⟩

/-- A price that is no string yet converts to one by a built-in rule, and to a type of the host by
what is registered. -/
theorem coerce_sound_price :
    let context : Context := .root ⟨0, .global, .permissive, {}⟩
    let reached := pricedState.asked context (.getVariable "price")
    let euro := ValueType.named "Euro"
    resolve (perform 1) context (.reference "price") pricedState =
        (some (.success (.int 5)), reached) ∧
      convert (perform 1) context (.reference "price") .string pricedState =
        (some (.success (.string "5")), reached) ∧
      CastsConsulted context (.int 5) euro reached
        (convert (perform 1) context (.reference "price") euro pricedState).2 := by
  intro context reached euro
  have hread : context.require "price" pricedState = (.success (.int 5), reached) :=
    Context.require_of_bound nofun rfl
  have hresolved : resolve (perform 1) context (.reference "price") pricedState =
      (some (.success (.int 5)), reached) := by
    show (liftM (context.require "price") : Run (Outcome Value)) pricedState = _
    rw [Run.lift_apply, hread]
  have hnative := ((Value.coerce_sound (.int 5) .string).2 1 context _ _ _ hresolved rfl).native
  have hcasts :=
    ((Value.coerce_sound (.int 5) euro).2 1 context _ _ _ hresolved rfl).consulted_iff
  refine ⟨hresolved, hnative (fun h => nomatch h.1), hcasts.mpr ⟨rfl, ?_⟩⟩
  rintro (⟨h, -⟩ | ⟨h, -⟩) <;> cases h

end GuardedScript

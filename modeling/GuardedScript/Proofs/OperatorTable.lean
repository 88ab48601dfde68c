import GuardedScript.Proofs.MemberKeys
import GuardedScript.StandardOperators
import Mathlib.Data.List.Basic

/-!
# The table of standard operators

What a context has under the keys of operators after the standard operators were registered in it:
under the key of a number operator there is the function of that operator, and no other type has a
function for it (`overloads_number`, `overloads_elsewhere`).

Keys of operators do not collide, since keys of members do not.
-/

set_option autoImplicit false

namespace GuardedScript

/-! ### Keys of operators -/

/-- Different operators have different symbols. -/
theorem Operator.symbol_injective {operator other : Operator} (h : operator.symbol = other.symbol) :
    operator = other := by
  have hread : ∀ operator : Operator, ofSymbol? operator.symbol = some operator := by
    intro operator
    cases operator <;> decide +kernel
  have hsame := congrArg ofSymbol? h
  rw [hread, hread] at hsame
  exact Option.some.inj hsame

/-- No symbol of an operator has a blank. -/
theorem Operator.blankless_symbol (operator : Operator) : Text.Blankless operator.symbol := by
  cases operator <;> decide +kernel

/-- The key of an operator of a type. -/
def operatorKey (typeName : String) (operator : Operator) : String :=
  Text.key (MemberKey.text ⟨.operator, typeName, operator.symbol⟩)

/-- Different operators have different keys. -/
theorem operatorKey_injective {typeName otherName : String} {operator other : Operator}
    (plain : Text.Plain typeName) (otherPlain : Text.Plain otherName)
    (h : operatorKey typeName operator = operatorKey otherName other) :
    typeName = otherName ∧ operator = other := by
  have hkey : MemberKey.Blankless ⟨.operator, typeName, operator.symbol⟩ :=
    ⟨plain.blankless, operator.blankless_symbol⟩
  have hotherKey : MemberKey.Blankless ⟨.operator, otherName, other.symbol⟩ :=
    ⟨otherPlain.blankless, other.blankless_symbol⟩
  rw [operatorKey, operatorKey, MemberKey.key_text_eq_iff_of_plain hkey hotherKey plain.unmarked
    otherPlain.unmarked, MemberKey.eq_iff] at h
  obtain ⟨-, htype, hsymbol⟩ := h
  exact ⟨htype, Operator.symbol_injective hsymbol⟩

/-! ### Registering functions -/

/-- A permissive context permits everything. -/
theorem Context.permits_of_permissive {context : Context} (h : context.policy = .permissive)
    (check : Check) (store : Store) : context.Permits store check := by
  intro reason heq
  rw [Context.decision, h] at heq
  cases heq

/-- Registering adds some functions to a context, behind those that it has. -/
structure Enlists (home : Context) (entries : List (String × Function)) (state final : State) :
    Prop where
  size : final.store.size = state.store.size
  overloads : ∀ key, (final.store.registry home.id).overloads key =
    (state.store.registry home.id).overloads key ++
      (entries.filter (fun entry => entry.1 = key)).map Prod.snd

section Registering

variable {home : Context}

/-- Doing nothing registers nothing. -/
theorem Enlists.refl (state : State) : Enlists home [] state state :=
  ⟨rfl, fun _ => (List.append_nil _).symm⟩

/-- What is registered in two parts is registered in this order. -/
theorem Enlists.trans {first second third : State} {entries more : List (String × Function)}
    (hfirst : Enlists home entries first second) (hsecond : Enlists home more second third) :
    Enlists home (entries ++ more) first third := by
  refine ⟨hsecond.size.trans hfirst.size, ?_⟩
  intro key
  rw [hsecond.overloads, hfirst.overloads, List.filter_append, List.map_append, List.append_assoc]

/-- Where there were no functions under a key, those registered under it are all there is. -/
theorem Enlists.mem {entries : List (String × Function)} {state final : State}
    (h : Enlists home entries state final) {key : String} {function : Function}
    (hbefore : (state.store.registry home.id).overloads key = []) :
    function ∈ (final.store.registry home.id).overloads key ↔ (key, function) ∈ entries := by
  simp [h.overloads, hbefore]

/-- The function of an operator that is given by a function on host types. -/
def operatorFunction {α ρ : Type} [Readable α] [Writable ρ] (id : Nat) (typeName : String)
    (operator : Operator) (f : α → α → ρ) : Function :=
  let readers : Readers ρ (α → α → ρ) :=
    .cons (.of α leftOperand) (.cons (.of α rightOperand) .nil)
  ⟨id, MemberKey.text ⟨.operator, typeName, operator.symbol⟩, readers.parameters, false,
    .native (fun bindings =>
      match readers.call f bindings with
      | .ok result => .done (.success (Writable.write result))
      | .error reason => .done (.failure reason))⟩

variable (permissive : home.policy = .permissive)

include permissive

/-- Registering in a permissive context adds the function under the key of its name. -/
theorem enlists_register {state : State} (placed : home.id < state.store.size) (name : String)
    (function : Function) :
    Enlists home [(Text.key name, function)] state (home.register name function false state).2 := by
  have hregister : home.register name function false = home.enlist (Text.key name) function false
      none := by
    cases home <;> rfl
  rw [hregister, Context.enlist,
    Context.guarded_of_permits _ _ _ (Context.permits_of_permissive permissive _ _)]
  refine ⟨Store.size_update _ _ _, ?_⟩
  intro key
  show ((state.store.update home.id (fun registry =>
    registry.addFunction (Text.key name) function)).registry home.id).overloads key = _
  rw [Store.registry_update_self _ placed, Registry.overloads_addFunction]
  by_cases h : Text.key name = key <;> simp [h]

/-- Registering an operator adds its function under its key. -/
theorem enlists_registerOperator {α ρ : Type} [Readable α] [Writable ρ] {state : State}
    (placed : home.id < state.store.size) (typeName : String) (operator : Operator)
    (f : α → α → ρ) :
    ∃ id, Enlists home [(operatorKey typeName operator, operatorFunction id typeName operator f)]
      state (home.registerOperator typeName operator f state).2 := by
  let function := operatorFunction state.nextFunction typeName operator f
  let counted : State := { state with nextFunction := state.nextFunction + 1 }
  have hplaced : home.id < counted.store.size := placed
  obtain ⟨hsize, hoverloads⟩ := enlists_register permissive hplaced function.name function
  exact ⟨state.nextFunction, hsize, hoverloads⟩

end Registering

/-! ### The standard operators -/

/-- The function of a number operator. -/
def numberFunction (id : Nat) (operator : Operator) : Function :=
  operatorFunction id "Number" operator (Arithmetic.combine operator)

/-- An entry under the key of an operator; a number operator is one of the type of numbers. -/
def StandardEntry (entry : String × Function) : Prop :=
  ∃ typeName operator, Text.Plain typeName ∧ entry.1 = operatorKey typeName operator ∧
    (operator ∈ numberOperators →
      typeName = "Number" ∧ ∃ id, entry.2 = numberFunction id operator)

/-- An operation that only registers such entries. -/
def Registers (home : Context) {α : Type} (access : Access α) : Prop :=
  ∀ state, home.id < state.store.size →
    ∃ entries, Enlists home entries state (access state).2 ∧ ∀ entry ∈ entries, StandardEntry entry

section Standard

variable {home : Context}

/-- Doing nothing registers no other entries. -/
theorem registers_pure {α : Type} (a : α) : Registers home (pure a) :=
  fun state _ => ⟨[], .refl state, fun _ hmem => absurd hmem List.not_mem_nil⟩

/-- A sequence registers such entries if its parts do. -/
theorem registers_bind {α β : Type} {access : Access α} {next : α → Access β}
    (haccess : Registers home access) (hnext : ∀ a, Registers home (next a)) :
    Registers home (access >>= next) := by
  intro state placed
  obtain ⟨entries, hentries, hstandard⟩ := haccess state placed
  obtain ⟨more, hmore, hstandard'⟩ := hnext (access state).1 (access state).2
    (hentries.size ▸ placed)
  refine ⟨entries ++ more, hentries.trans hmore, ?_⟩
  exact List.forall_mem_append.mpr ⟨hstandard, hstandard'⟩

variable (permissive : home.policy = .permissive)

include permissive

/-- Registering an operator that is not one of numbers registers such an entry. -/
theorem registers_registerOperator {α ρ : Type} [Readable α] [Writable ρ] {typeName : String}
    (plain : Text.Plain typeName) {operator : Operator} (h : operator ∉ numberOperators)
    (f : α → α → ρ) : Registers home (home.registerOperator typeName operator f) := by
  intro state placed
  obtain ⟨id, henlists⟩ := enlists_registerOperator permissive placed typeName operator f
  refine ⟨_, henlists, List.forall_mem_singleton.mpr ?_⟩
  exact ⟨typeName, operator, plain, rfl, fun hmem => absurd hmem h⟩

/-- Registering number operators adds an entry for each of them. -/
theorem enlists_registerNumberOperators (operators : List Operator) {state : State}
    (placed : home.id < state.store.size) :
    ∃ entries, Enlists home entries state (home.registerNumberOperators operators state).2 ∧
      (∀ entry ∈ entries, StandardEntry entry) ∧
      ∀ operator ∈ operators, ∃ id,
        (operatorKey "Number" operator, numberFunction id operator) ∈ entries := by
  induction operators generalizing state with
  | nil =>
    refine ⟨[], .refl state, ?_, ?_⟩
    · exact fun _ hmem => absurd hmem List.not_mem_nil
    · exact fun _ hmem => absurd hmem List.not_mem_nil
  | cons operator operators ih =>
    obtain ⟨id, hfirst⟩ := enlists_registerOperator permissive placed "Number" operator
      (Arithmetic.combine operator)
    obtain ⟨entries, hrest, hstandard, hpresent⟩ := ih (hfirst.size ▸ placed)
    refine ⟨_, hfirst.trans hrest, ?_, ?_⟩
    · refine List.forall_mem_cons.mpr ⟨?_, hstandard⟩
      exact ⟨"Number", operator, by decide +kernel, rfl, fun _ => ⟨rfl, id, rfl⟩⟩
    · refine List.forall_mem_cons.mpr ⟨⟨id, List.mem_cons_self ..⟩, ?_⟩
      intro other hmem
      obtain ⟨id, hother⟩ := hpresent other hmem
      exact ⟨id, List.mem_cons_of_mem _ hother⟩

/-- Registering the standard operators adds an entry for each number operator, and others only under
other keys. -/
theorem enlists_registerStandardOperators {state : State}
    (placed : home.id < state.store.size) :
    ∃ entries, Enlists home entries state (home.registerStandardOperators state).2 ∧
      (∀ entry ∈ entries, StandardEntry entry) ∧
      ∀ operator ∈ numberOperators, ∃ id,
        (operatorKey "Number" operator, numberFunction id operator) ∈ entries := by
  obtain ⟨entries, hnumbers, hstandard, hpresent⟩ :=
    enlists_registerNumberOperators permissive numberOperators placed
  have hothers : Registers home (do
      let _ ← home.registerOperator "Object" .equal (fun (a b : Value) => a == b)
      let _ ← home.registerOperator "Object" .notEqual (fun (a b : Value) => a != b)
      let _ ← home.registerOperator "Int" .bitAnd (fun (a b : Int64) => a &&& b)
      let _ ← home.registerOperator "Int" .bitOr (fun (a b : Int64) => a ||| b)
      let _ ← home.registerOperator "Int" .bitXor (fun (a b : Int64) => a ^^^ b)
      let _ ← home.registerOperator "Boolean" .and (fun (a b : Bool) => a && b)
      let _ ← home.registerOperator "Boolean" .or (fun (a b : Bool) => a || b)
      return ()) := by
    iterate 7
      refine registers_bind (registers_registerOperator permissive (by decide +kernel)
        (by decide) _) (fun _ => ?_)
    exact registers_pure ()
  have hplaced : home.id < (home.registerNumberOperators numberOperators state).2.store.size := by
    rw [hnumbers.size]
    exact placed
  obtain ⟨more, hmore, hstandard'⟩ := hothers _ hplaced
  rw [Context.registerStandardOperators, Access.bind_apply]
  refine ⟨entries ++ more, hnumbers.trans hmore, ?_, ?_⟩
  · exact List.forall_mem_append.mpr ⟨hstandard, hstandard'⟩
  · intro operator hmem
    obtain ⟨id, hpresent⟩ := hpresent operator hmem
    exact ⟨id, List.mem_append_left _ hpresent⟩

/-- Once the standard operators are registered, the functions under the key of a number operator are
those of that operator, and there are some. -/
theorem overloads_number {state : State} (placed : home.id < state.store.size)
    {operator : Operator} (hnumber : operator ∈ numberOperators)
    (hbefore : (state.store.registry home.id).overloads (operatorKey "Number" operator) = []) :
    let functions := ((home.registerStandardOperators state).2.store.registry home.id).overloads
      (operatorKey "Number" operator)
    functions ≠ [] ∧ ∀ function ∈ functions, ∃ id, function = numberFunction id operator := by
  intro functions
  obtain ⟨entries, henlists, hstandard, hpresent⟩ :=
    enlists_registerStandardOperators permissive placed
  refine ⟨?_, ?_⟩
  · obtain ⟨id, hentry⟩ := hpresent operator hnumber
    exact List.ne_nil_of_mem ((henlists.mem hbefore).mpr hentry)
  · intro function hmem
    obtain ⟨typeName, other, plain, hkey, hother⟩ := hstandard _ ((henlists.mem hbefore).mp hmem)
    obtain ⟨-, rfl⟩ := operatorKey_injective (by decide +kernel) plain hkey
    exact (hother hnumber).2

/-- No other type has a function for a number operator. -/
theorem overloads_elsewhere {state : State} (placed : home.id < state.store.size)
    {operator : Operator} (hnumber : operator ∈ numberOperators) {typeName : String}
    (plain : Text.Plain typeName) (hother : typeName ≠ "Number")
    (hbefore : (state.store.registry home.id).overloads (operatorKey typeName operator) = []) :
    ((home.registerStandardOperators state).2.store.registry home.id).overloads
      (operatorKey typeName operator) = [] := by
  obtain ⟨entries, henlists, hstandard, -⟩ := enlists_registerStandardOperators permissive placed
  refine List.eq_nil_iff_forall_not_mem.mpr (fun function hmem => ?_)
  obtain ⟨found, foundOperator, foundPlain, hkey, hfound⟩ :=
    hstandard _ ((henlists.mem hbefore).mp hmem)
  obtain ⟨rfl, rfl⟩ := operatorKey_injective plain foundPlain hkey
  exact hother (hfound hnumber).1

end Standard

end GuardedScript

import GuardedScript.Proofs.IntegerChains
import GuardedScript.Proofs.RoundedIntegers

/-!
# Comparisons of integers

The standard operators compare integers in two ways.  Equality is an operator of all values and
compares integers as they are.  The order is an operator of numbers, which promotes both integers to
doubles first, so that it compares them after rounding (`yields_order`, `yields_equal`).

As long as rounding keeps two integers apart, or they are equal, the two ways agree.  Otherwise
neither is less than the other although they are not equal (`compares_rounded`).
-/

set_option autoImplicit false

namespace GuardedScript

/-! ### The entries for equality -/

/-- The function of equality. -/
def equalityFunction (id : Nat) : Function :=
  operatorFunction id "Object" .equal (fun (a b : Value) => a == b)

section Table

variable {home : Context} (permissive : home.policy = .permissive)

include permissive

/-- One more operator is registered behind those that were registered before. -/
theorem Enlists.operator {α ρ : Type} [Readable α] [Writable ρ] {state reached : State}
    {entries : List (String × Function)} (h : Enlists home entries state reached)
    (placed : home.id < state.store.size) (typeName : String) (operator : Operator)
    (f : α → α → ρ) :
    ∃ id, Enlists home
      (entries ++ [(operatorKey typeName operator, operatorFunction id typeName operator f)])
      state (home.registerOperator typeName operator f reached).2 := by
  obtain ⟨id, hoperator⟩ :=
    enlists_registerOperator permissive (h.size ▸ placed) typeName operator f
  exact ⟨id, h.trans hoperator⟩

/-- The number operators are registered under the keys of their symbols. -/
theorem enlists_numberKeys (operators : List Operator) {state : State}
    (placed : home.id < state.store.size) :
    ∃ entries, Enlists home entries state (home.registerNumberOperators operators state).2 ∧
      ∀ entry ∈ entries, ∃ operator ∈ operators, entry.1 = operatorKey "Number" operator := by
  induction operators generalizing state with
  | nil => exact ⟨[], .refl state, fun _ hmem => absurd hmem List.not_mem_nil⟩
  | cons operator operators ih =>
    obtain ⟨id, hfirst⟩ := enlists_registerOperator permissive placed "Number" operator
      (Arithmetic.combine operator)
    obtain ⟨entries, hrest, hkeys⟩ := ih (hfirst.size ▸ placed)
    refine ⟨_, hfirst.trans hrest, List.forall_mem_cons.mpr ⟨⟨operator, by simp, rfl⟩, ?_⟩⟩
    intro entry hmem
    obtain ⟨other, hother, hkey⟩ := hkeys entry hmem
    exact ⟨other, List.mem_cons_of_mem _ hother, hkey⟩

/-- Among the entries of the standard operators one is that of equality, and there is no other under
the key of an equality operator. -/
theorem enlists_equality {state : State} (placed : home.id < state.store.size) :
    ∃ entries id, Enlists home entries state (home.registerStandardOperators state).2 ∧
      (operatorKey "Object" .equal, equalityFunction id) ∈ entries ∧
      ∀ entry ∈ entries, ∃ typeName operator, Text.Plain typeName ∧
        entry.1 = operatorKey typeName operator ∧
        (operator = .equal → entry = (operatorKey "Object" .equal, equalityFunction id)) := by
  obtain ⟨numbers, hnumbers, hkeys⟩ := enlists_numberKeys permissive numberOperators placed
  obtain ⟨id, h₁⟩ := hnumbers.operator permissive placed "Object" .equal
    (fun (a b : Value) => a == b)
  obtain ⟨_, h₂⟩ := h₁.operator permissive placed "Object" .notEqual
    (fun (a b : Value) => a != b)
  obtain ⟨_, h₃⟩ := h₂.operator permissive placed "Int" .bitAnd (fun (a b : Int64) => a &&& b)
  obtain ⟨_, h₄⟩ := h₃.operator permissive placed "Int" .bitOr (fun (a b : Int64) => a ||| b)
  obtain ⟨_, h₅⟩ := h₄.operator permissive placed "Int" .bitXor (fun (a b : Int64) => a ^^^ b)
  obtain ⟨_, h₆⟩ := h₅.operator permissive placed "Boolean" .and (fun (a b : Bool) => a && b)
  obtain ⟨_, h₇⟩ := h₆.operator permissive placed "Boolean" .or (fun (a b : Bool) => a || b)
  simp only [Context.registerStandardOperators, Access.bind_apply, Access.pure_apply]
  refine ⟨_, id, h₇, by simp [equalityFunction], ?_⟩
  intro entry hmem
  simp only [List.mem_append, List.mem_singleton] at hmem
  rcases hmem with ((((((hmem | rfl) | rfl) | rfl) | rfl) | rfl) | rfl) | rfl
  · obtain ⟨operator, hoperator, hkey⟩ := hkeys entry hmem
    refine ⟨"Number", operator, by decide +kernel, hkey, ?_⟩
    rintro rfl
    exact absurd hoperator (by decide)
  · exact ⟨"Object", .equal, by decide +kernel, rfl, fun _ => rfl⟩
  · exact ⟨"Object", .notEqual, by decide +kernel, rfl, fun h => by cases h⟩
  · exact ⟨"Int", .bitAnd, by decide +kernel, rfl, fun h => by cases h⟩
  · exact ⟨"Int", .bitOr, by decide +kernel, rfl, fun h => by cases h⟩
  · exact ⟨"Int", .bitXor, by decide +kernel, rfl, fun h => by cases h⟩
  · exact ⟨"Boolean", .and, by decide +kernel, rfl, fun h => by cases h⟩
  · exact ⟨"Boolean", .or, by decide +kernel, rfl, fun h => by cases h⟩

end Table

section Equipped

variable {home context : Context} {state : State}

/-- The functions under the key of an equality operator are those of the type of everything. -/
theorem Equipped.equality (h : Equipped home context state) :
    (state.store.registry home.id).overloads (operatorKey "Object" .equal) ≠ [] ∧
      ∀ typeName, Text.Plain typeName → ∀ scope ∈ context.ancestry,
        ∀ function ∈ (state.store.registry scope.id).overloads (operatorKey typeName .equal),
          typeName = "Object" ∧ ∃ id, function = equalityFunction id := by
  obtain ⟨earlier, placed, htable⟩ := h.registered
  obtain ⟨entries, id, henlists, hpresent, hkeys⟩ := enlists_equality h.inside.home_policy placed
  constructor
  · obtain ⟨hbefore, hsame⟩ := htable "Object" .equal
    rw [hsame]
    exact List.ne_nil_of_mem ((henlists.mem hbefore).mpr hpresent)
  · intro typeName plain scope hscope function hmem
    by_cases hid : scope.id = home.id
    · obtain ⟨hbefore, hsame⟩ := htable typeName .equal
      rw [hid, hsame] at hmem
      obtain ⟨found, operator, foundPlain, hkey, hequal⟩ :=
        hkeys _ ((henlists.mem hbefore).mp hmem)
      obtain ⟨rfl, rfl⟩ := operatorKey_injective plain foundPlain hkey
      obtain ⟨hobject, hfunction⟩ := Prod.mk.inj (hequal rfl)
      have hplain : Text.Plain "Object" := by decide +kernel
      exact ⟨(operatorKey_injective plain hplain hobject).1, id, hfunction⟩
    · rw [h.bare scope hscope hid] at hmem
      exact absurd hmem List.not_mem_nil

/-- On a type other than that of all objects no equality is found. -/
theorem yields_invoke_equal_idle {perform : Evaluator} {arguments : List (Argument Value)}
    {typeName : String} (plain : Text.Plain typeName) (hother : typeName ≠ "Object") :
    Yields (Equipped home context)
      (invoke perform context (MemberKey.text ⟨.operator, typeName, Operator.equal.symbol⟩)
        arguments)
      (fun outcome => outcome.success? = none) := by
  refine yields_invoke_idle steady_equipped (fun state h scope hscope function hmem => ?_)
  exact absurd (h.equality.2 typeName plain scope hscope function hmem).1 hother

/-- Equality of integers is found on the type of all objects. -/
theorem yields_invoke_equal (inside : PermissiveIn home context) (a b : Int64) (fuel : Nat) :
    Yields (Equipped home context)
      (invoke (perform (fuel + 1)) context
        (MemberKey.text ⟨.operator, "Object", Operator.equal.symbol⟩)
        [.named leftOperand (.int a), .named rightOperand (.int b)])
      (fun outcome => outcome = .success (.boolean (a == b))) := by
  refine yields_invoke_answering steady_equipped inside ?_ (fun state h => h.equality.1) fuel
  intro state h scope hscope function hmem
  obtain ⟨-, id, rfl⟩ := h.equality.2 "Object" (by decide +kernel) scope hscope function hmem
  exact ⟨_, _, rfl, rfl, rfl⟩

end Equipped

/-! ### One comparison -/

/-- The operators of order. -/
def orderOperators : List Operator :=
  [.less, .lessEqual, .greater, .greaterEqual]

/-- Whether two integers are in the relation that an operator stands for. -/
def related (operator : Operator) (a b : Int) : Bool :=
  match operator with
  | .less => decide (a < b)
  | .lessEqual => decide (a ≤ b)
  | .greater => decide (b < a)
  | .greaterEqual => decide (b ≤ a)
  | .equal => decide (a = b)
  | _ => false

/-- The result of comparing two integers by an operator, as a chain of these in a context. -/
def compared (fuel : Nat) (context : Context) (state : State) (a : Int64) (operator : Operator)
    (b : Int64) : Option (Outcome Value) :=
  (perform (fuel + 2) context (.evaluate (.expression (.int a) [(operator, .int b)])) state).1

/-- An order operator compares the rounded integers. -/
theorem Arithmetic.combine_order {operator : Operator} (h : operator ∈ orderOperators)
    (a b : Int64) :
    combine operator (.int a) (.int b) =
      .boolean (related operator (rounded a.toInt) (rounded b.toInt)) := by
  simp only [orderOperators, List.mem_cons, List.not_mem_nil, or_false] at h
  rcases h with rfl | rfl | rfl | rfl <;>
    simp only [combine, compare?, related, toFloat_lt_iff, toFloat_le_iff]

/-- The order operators are among those on numbers. -/
theorem mem_numberOperators_of_order {operator : Operator} (h : operator ∈ orderOperators) :
    operator ∈ numberOperators := by
  simp only [orderOperators, List.mem_cons, List.not_mem_nil, or_false] at h
  rcases h with rfl | rfl | rfl | rfl <;> decide

/-- A chain with one operator is one application of it. -/
theorem Reduction.reduce_singleton {V : Type} (apply : V → Operator → V → Run V) (start : V)
    (operator : Operator) (operand : V) :
    Reduction.reduce apply start [(operator, operand)] =
      (apply start operator operand >>= fun result => pure (result, [])) := by
  cases operator <;> simp [reduce, Tier.all, reduceTiers, pass, Operator.tier]

section Compare

variable {home context : Context} (inside : PermissiveIn home context)

include inside

/-- A comparison comes to what the types of the left operand have to offer for it. -/
theorem yields_compared {operator : Operator} {a b : Int64} {value : Value} (fuel : Nat)
    (h : Yields (Equipped home context)
      (invokeOnTypes (perform (fuel + 1)) context .operator operator.symbol
        [.named leftOperand (.int a), .named rightOperand (.int b)] ValueType.int.hierarchy none)
      (fun outcome => outcome = .success value)) :
    Yields (Equipped home context)
      (perform (fuel + 2) context (.evaluate (.expression (.int a) [(operator, .int b)])))
      (fun outcome => outcome = .success value) := by
  have hleft : (Value.int a).evaluationKind = .fixed := rfl
  obtain ⟨action, happly⟩ := (Value.immediate_of_fixed hleft).operator operator.symbol
  have permits := Context.permits_of_permissive inside.policy
  have hchain : Yields (Equipped home context)
      (applyInChain (perform (fuel + 1)) context (.int a) operator (.int b))
      (fun result => result = value) := by
    rw [applyInChain, happly _ _ _ rfl, invokeMember]
    refine yields_bind (yields_guarded_of_permits steady_equipped (permits _) h) ?_
    rintro _ rfl
    exact yields_pure rfl
  show Yields _ (evaluateChain (perform (fuel + 1)) _ context _ _) _
  have hints := evaluateChain_ints (perform (fuel + 1)) (applyInChain (perform (fuel + 1)) context)
    context a [(operator, b)]
  simp only [List.map_cons, List.map_nil, Prod.map_apply, id_eq] at hints
  rw [hints, Reduction.reduce_singleton]
  refine yields_bind (P := fun result => result.1 = value) (yields_bind hchain ?_) ?_
  · rintro _ rfl
    exact yields_pure rfl
  · rintro result rfl
    exact yields_pure rfl

/-- The order is that of the rounded integers. -/
theorem yields_order {operator : Operator} (h : operator ∈ orderOperators) (a b : Int64)
    (fuel : Nat) :
    Yields (Equipped home context)
      (perform (fuel + 2) context (.evaluate (.expression (.int a) [(operator, .int b)])))
      (fun outcome =>
        outcome = .success (.boolean (related operator (rounded a.toInt) (rounded b.toInt)))) := by
  have hnumber := mem_numberOperators_of_order h
  rw [← Arithmetic.combine_order h]
  refine yields_compared inside fuel (yields_invokeOnTypes_idle
    (yields_invoke_elsewhere hnumber (by decide +kernel) (by decide)) (fun first => ?_) none)
  exact yields_invokeOnTypes_answering
    (yields_invoke_number hnumber inside (.int a) (.int b) fuel) _ first

/-- Equality is that of the integers. -/
theorem yields_equal (a b : Int64) (fuel : Nat) :
    Yields (Equipped home context)
      (perform (fuel + 2) context (.evaluate (.expression (.int a) [(.equal, .int b)])))
      (fun outcome => outcome = .success (.boolean (a == b))) := by
  refine yields_compared inside fuel (yields_invokeOnTypes_idle
    (yields_invoke_equal_idle (by decide +kernel) (by decide)) (fun first => ?_) none)
  refine yields_invokeOnTypes_idle
    (yields_invoke_equal_idle (by decide +kernel) (by decide)) (fun first => ?_) first
  exact yields_invokeOnTypes_answering (yields_invoke_equal inside a b fuel) _ first

end Compare

/-! ### Order and equality together -/

/-- All five comparisons of two integers have the results that they have in the integers. -/
def ComparesExactly (fuel : Nat) (context : Context) (state : State) (a b : Int64) : Prop :=
  ∀ operator ∈ Operator.equal :: orderOperators,
    compared fuel context state a operator b =
      some (.success (.boolean (related operator a.toInt b.toInt)))

/-- Exactly one of less, equal and greater is true of two integers. -/
def Trichotomous (fuel : Nat) (context : Context) (state : State) (a b : Int64) : Prop :=
  ∃! operator, operator ∈ [Operator.less, .equal, .greater] ∧
    compared fuel context state a operator b = some (.success (.boolean true))

/-- Rounding does not make two integers equal that are not. -/
def Separated (a b : Int64) : Prop :=
  a = b ∨ rounded a.toInt ≠ rounded b.toInt

/-- Integers that are rounded apart are in the order of what they are rounded to. -/
theorem rounded_lt_iff {a b : Int} (h : rounded a ≠ rounded b) :
    rounded a < rounded b ↔ a < b := by
  constructor
  · intro hlt
    by_contra hle
    exact absurd (rounded_mono (not_lt.mp hle)) (not_le.mpr hlt)
  · intro hlt
    exact lt_of_le_of_ne (rounded_mono hlt.le) h

/-- Integers that are equal or rounded apart are compared as they are. -/
theorem related_rounded {operator : Operator} (hoperator : operator ∈ orderOperators) {a b : Int64}
    (h : Separated a b) :
    related operator (rounded a.toInt) (rounded b.toInt) = related operator a.toInt b.toInt := by
  rcases h with rfl | hne
  · simp only [orderOperators, List.mem_cons, List.not_mem_nil, or_false] at hoperator
    rcases hoperator with rfl | rfl | rfl | rfl <;> simp [related]
  · have hlt := rounded_lt_iff hne
    have hgt := rounded_lt_iff (Ne.symm hne)
    simp only [orderOperators, List.mem_cons, List.not_mem_nil, or_false] at hoperator
    rcases hoperator with rfl | rfl | rfl | rfl
    · simp only [related, hlt]
    · simp only [related, ← not_lt, hgt]
    · simp only [related, hgt]
    · simp only [related, ← not_lt, hlt]

/-- One of three relations holds between two integers. -/
theorem existsUnique_related (a b : Int) :
    ∃! operator, operator ∈ [Operator.less, .equal, .greater] ∧ related operator a b = true := by
  have hunique : ∀ operator, operator ∈ [Operator.less, .equal, .greater] ∧
      related operator a b = true →
      operator = if a < b then .less else if a = b then .equal else .greater := by
    rintro operator ⟨hmem, hrelated⟩
    simp only [List.mem_cons, List.not_mem_nil, or_false] at hmem
    rcases hmem with rfl | rfl | rfl <;> simp only [related, decide_eq_true_eq] at hrelated
    · rw [if_pos hrelated]
    · rw [if_neg (by omega), if_pos hrelated]
    · rw [if_neg (by omega), if_neg (by omega)]
  refine ⟨if a < b then .less else if a = b then .equal else .greater, ?_, hunique⟩
  rcases lt_trichotomy a b with h | h | h
  · simp [related, h]
  · simp [related, h]
  · simp [related, h, h.not_gt, h.ne']

section Results

variable {home context : Context} {state : State} (equipped : Equipped home context state)

include equipped

/-- An order operator in a chain comes to the comparison of the rounded integers. -/
theorem compared_order {operator : Operator} (h : operator ∈ orderOperators) (a b : Int64)
    (fuel : Nat) :
    compared fuel context state a operator b =
      some (.success (.boolean (related operator (rounded a.toInt) (rounded b.toInt)))) := by
  obtain ⟨outcome, final, hrun, -, rfl⟩ := yields_order equipped.inside h a b fuel state equipped
  exact congrArg Prod.fst hrun

/-- Equality in a chain comes to that of the integers themselves. -/
theorem compared_equal (a b : Int64) (fuel : Nat) :
    compared fuel context state a .equal b =
      some (.success (.boolean (related .equal a.toInt b.toInt))) := by
  obtain ⟨outcome, final, hrun, -, rfl⟩ := yields_equal equipped.inside a b fuel state equipped
  have hsame : (a == b) = related .equal a.toInt b.toInt := by
    simp [related, Int64.toInt_inj, beq_eq_decide]
  rw [← hsame]
  exact congrArg Prod.fst hrun

/-- Integers that are equal or rounded apart are compared exactly. -/
theorem comparesExactly_of_separated {a b : Int64} (h : Separated a b) (fuel : Nat) :
    ComparesExactly fuel context state a b := by
  refine List.forall_mem_cons.mpr ⟨compared_equal equipped a b fuel, ?_⟩
  intro operator hoperator
  rw [compared_order equipped hoperator, related_rounded hoperator h]

/-- Two integers that rounding makes equal are in the order both ways. -/
theorem separated_of_comparesExactly {a b : Int64} {fuel : Nat}
    (h : ComparesExactly fuel context state a b) : Separated a b := by
  by_contra hseparated
  obtain ⟨hne, hrounded⟩ := not_or.mp hseparated
  have hrounded : rounded a.toInt = rounded b.toInt := not_not.mp hrounded
  have hle := h .lessEqual (by decide)
  have hge := h .greaterEqual (by decide)
  rw [compared_order equipped (by decide), hrounded] at hle hge
  simp only [related, le_refl, decide_true, Option.some.injEq, Outcome.success.injEq,
    Value.boolean.injEq, Bool.true_eq, decide_eq_true_eq] at hle hge
  exact hne (Int64.toInt_inj.mp (le_antisymm hle hge))

/-- Which one of two integers is less, or whether they are equal, is told by exactly one operator as
long as rounding keeps them apart, and else by none. -/
theorem trichotomous_iff (a b : Int64) (fuel : Nat) :
    Trichotomous fuel context state a b ↔ Separated a b := by
  constructor
  · rintro ⟨operator, ⟨hmem, htrue⟩, -⟩
    by_contra hseparated
    obtain ⟨hne, hrounded⟩ := not_or.mp hseparated
    have hrounded : rounded a.toInt = rounded b.toInt := not_not.mp hrounded
    simp only [List.mem_cons, List.not_mem_nil, or_false] at hmem
    rcases hmem with rfl | rfl | rfl
    · rw [compared_order equipped (by decide), hrounded] at htrue
      simp [related] at htrue
    · rw [compared_equal equipped] at htrue
      exact hne (by simpa [related, Int64.toInt_inj] using htrue)
    · rw [compared_order equipped (by decide), hrounded] at htrue
      simp [related] at htrue
  · intro hseparated
    have hexact := comparesExactly_of_separated equipped hseparated fuel
    have hiff : ∀ operator, (operator ∈ [Operator.less, .equal, .greater] ∧
        compared fuel context state a operator b = some (.success (.boolean true))) ↔
        (operator ∈ [Operator.less, .equal, .greater] ∧
          related operator a.toInt b.toInt = true) := by
      refine fun operator => and_congr_right (fun hmem => ?_)
      have hcompared := hexact operator (by revert hmem; cases operator <;> decide)
      rw [hcompared]
      simp
    simpa only [Trichotomous, hiff] using existsUnique_related a.toInt b.toInt

end Results

/-- Integers are compared for equality as they are, and for order after rounding to 53 significant
bits.

In a context inside of one where the standard operators were registered, each of the four chains
`a < b`, `a <= b`, `a > b` and `a >= b` evaluates to the truth value of that relation between the
rounded integers, and `a == b` to that of `a = b`.  All five are those of the integers themselves,
and exactly one of `a < b`, `a == b` and `a > b` is true, if and only if `a = b` or rounding keeps
the two apart.  This is so whenever neither is greater than the 53rd power of two in size. -/
theorem compares_rounded {home context : Context} {state : State}
    (equipped : Equipped home context state) (a b : Int64) (fuel : Nat) :
    (∀ operator ∈ orderOperators, compared fuel context state a operator b =
        some (.success (.boolean (related operator (rounded a.toInt) (rounded b.toInt))))) ∧
      compared fuel context state a .equal b =
        some (.success (.boolean (related .equal a.toInt b.toInt))) ∧
      (ComparesExactly fuel context state a b ↔ Separated a b) ∧
      (Trichotomous fuel context state a b ↔ Separated a b) ∧
      (a.toInt.natAbs ≤ 2 ^ 53 → b.toInt.natAbs ≤ 2 ^ 53 → Separated a b) := by
  refine ⟨fun operator h => compared_order equipped h a b fuel, compared_equal equipped a b fuel,
    ⟨separated_of_comparesExactly equipped, fun h => comparesExactly_of_separated equipped h fuel⟩,
    trichotomous_iff equipped a b fuel, ?_⟩
  intro ha hb
  rw [Separated, rounded_of_natAbs_le ha, rounded_of_natAbs_le hb, ← Int64.toInt_inj]
  exact em _

/-- A root in which the standard operators were registered is equipped with them. -/
theorem equipped_registered {frame : Frame} {earlier : State}
    (permissive : frame.policy = .permissive) (placed : frame.id < earlier.store.size)
    (bare : ∀ typeName operator,
      (earlier.store.registry frame.id).overloads (operatorKey typeName operator) = []) :
    Equipped (.root frame) (.root frame)
      ((Context.root frame).registerStandardOperators earlier).2 where
  inside := .home permissive
  registered := ⟨earlier, placed, fun typeName operator => ⟨bare typeName operator, rfl⟩⟩
  bare := by
    intro scope hscope hne
    rw [List.mem_singleton.mp hscope] at hne
    exact absurd rfl hne

/-- A global context. -/
def operatorHome : Context :=
  .root ⟨0, .global, .permissive, {}⟩

/-- The global context after the standard operators were registered in it. -/
def operatorState : State :=
  (operatorHome.registerStandardOperators { store := ⟨#[{}]⟩ }).2

/-- The context of the example is equipped with the operators. -/
theorem equipped_operatorHome : Equipped operatorHome operatorHome operatorState :=
  equipped_registered rfl (by decide) (fun _ _ => rfl)

/-- The largest integer and one that is rounded to the double below are told apart. -/
theorem compares_rounded_largest :
    Equipped operatorHome operatorHome operatorState ∧
      Separated 9223372036854775807 9223372036854775295 ∧
      ComparesExactly 0 operatorHome operatorState 9223372036854775807 9223372036854775295 := by
  have hseparated : Separated 9223372036854775807 9223372036854775295 := .inr (by decide +kernel)
  exact ⟨equipped_operatorHome, hseparated,
    (compares_rounded equipped_operatorHome _ _ 0).2.2.1.mpr hseparated⟩

/-- The 53rd power of two is less than its successor, but this is not what the comparison says. -/
theorem not_comparesExactly_successor :
    compared 0 operatorHome operatorState 9007199254740992 .less 9007199254740993 =
        some (.success (.boolean false)) ∧
      related .less 9007199254740992 9007199254740993 = true ∧
      ¬ ComparesExactly 0 operatorHome operatorState 9007199254740992 9007199254740993 ∧
      ¬ Trichotomous 0 operatorHome operatorState 9007199254740992 9007199254740993 := by
  have hmerged : ¬ Separated 9007199254740992 9007199254740993 := by
    rintro (h | h)
    · exact absurd h (by decide)
    · exact h (by decide +kernel)
  have hless : related .less (rounded (9007199254740992 : Int64).toInt)
      (rounded (9007199254740993 : Int64).toInt) = false := by decide +kernel
  refine ⟨?_, by decide, fun h => ?_, fun h => ?_⟩
  · rw [compared_order equipped_operatorHome (by decide), hless]
  · exact hmerged (separated_of_comparesExactly equipped_operatorHome h)
  · exact hmerged ((trichotomous_iff equipped_operatorHome _ _ 0).mp h)

end GuardedScript

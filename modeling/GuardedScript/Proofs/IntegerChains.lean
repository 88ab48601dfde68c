import GuardedScript.Proofs.CheckedArithmetic
import GuardedScript.Proofs.Fixity
import GuardedScript.Proofs.Lookup
import GuardedScript.Proofs.Precedence

/-!
# Chains of integer arithmetic never wrap

Where the standard operators are registered, a chain of integers and operators of arithmetic
evaluates to the exact value of its precedence tree, or to undefined if some node of the tree is
undefined (`evaluate_chain_exact`).  This goes through all layers: the chain is reduced tier by
tier; each application looks for the operator on the types of its left operand, where `Int` has none
and `Number` has one; the operands are bound by name; and the function combines them if they are
numbers.  Undefined has no operators of its own as a left operand and fits no parameter as a right
one, so that it goes up to the root of the tree.
-/

set_option autoImplicit false

namespace GuardedScript

open Reduction (Parses chainValue chainValue_nil chainValue_append NoneLooser AllTighter parses_iff)

/-! ### The value of a tree -/

namespace Reduction.Tree

/-- The value of a tree of 64-bit integers in the integers. -/
def exact : Reduction.Tree Int64 → Int
  | leaf n => n.toInt
  | node left operator right => Arithmetic.exact operator left.exact right.exact

/-- All nodes of a tree are defined. -/
def Defined : Reduction.Tree Int64 → Prop
  | leaf _ => True
  | node left operator right =>
    left.Defined ∧ right.Defined ∧ ¬ Arithmetic.Undefined operator left.exact right.exact

instance decidableDefined : (tree : Reduction.Tree Int64) → Decidable tree.Defined
  | leaf _ => .isTrue trivial
  | node left _ right =>
    have := decidableDefined left
    have := decidableDefined right
    inferInstanceAs (Decidable (_ ∧ _ ∧ ¬ _))

end Reduction.Tree

namespace Arithmetic

/-- The result of an operator on operands that may be missing. -/
def onDefined? (left : Option Int64) (operator : Operator) (right : Option Int64) : Option Int64 :=
  left.bind (fun a => right.bind (fun b => onInts? operator a b))

/-- The operands of a chain, none of which is missing. -/
def present (operations : List (Operator × Int64)) : List (Operator × Option Int64) :=
  operations.map (Prod.map id some)

/-- A node gives its exact value where both sides and the operator are defined. -/
theorem gives_node {operator : Operator} (h : operator ∈ operators)
    {left right : Reduction.Tree Int64} {a b : Option Int64}
    (hleft : Gives (¬ left.Defined) left.exact a)
    (hright : Gives (¬ right.Defined) right.exact b) :
    let tree := Reduction.Tree.node left operator right
    Gives (¬ tree.Defined) tree.exact (onDefined? a operator b) := by
  intro tree
  cases a with
  | none => exact fun hdefined => hleft hdefined.1
  | some a =>
    cases b with
    | none => exact fun hdefined => hright hdefined.2.1
    | some b =>
      obtain ⟨hleft, hleftValue⟩ := hleft
      obtain ⟨hright, hrightValue⟩ := hright
      have hnode := gives_onInts? h a b
      rw [hleftValue, hrightValue] at hnode
      simp only [onDefined?, Option.bind_some]
      cases hresult : onInts? operator a b with
      | none =>
        rw [hresult] at hnode
        exact fun hdefined => hdefined.2.2 hnode
      | some n =>
        rw [hresult] at hnode
        exact ⟨not_not.mpr ⟨not_not.mp hleft, not_not.mp hright, hnode.1⟩, hnode.2⟩

/-- Applying the operators of a chain on 64-bit integers gives the exact value of its tree, or none
if some node is undefined. -/
theorem gives_chainValue {start : Int64} {operations : List (Operator × Int64)}
    {tree : Reduction.Tree Int64} (parses : Parses start operations tree)
    (h : ∀ operation ∈ operations, operation.1 ∈ operators) :
    Gives (¬ tree.Defined) tree.exact
      (chainValue onDefined? (some start) (present operations)) := by
  induction parses with
  | leaf start =>
    rw [present, List.map_nil, chainValue_nil]
    exact ⟨not_not.mpr trivial, rfl⟩
  | @node start operand before after operator left right loosest last _ _ ihleft ihright =>
    have hloosest : NoneLooser (present before) operator := by
      intro operation hmem
      obtain ⟨original, horiginal, rfl⟩ := List.mem_map.mp hmem
      exact loosest original horiginal
    have hlast : AllTighter (present after) operator := by
      intro operation hmem
      obtain ⟨original, horiginal, rfl⟩ := List.mem_map.mp hmem
      exact last original horiginal
    obtain ⟨hbefore, hrest⟩ := List.forall_mem_append.mp h
    obtain ⟨hoperator, hafter⟩ := List.forall_mem_cons.mp hrest
    have hsplit : present (before ++ (operator, operand) :: after) =
        present before ++ (operator, some operand) :: present after := by
      simp [present]
    rw [hsplit, chainValue_append onDefined? _ _ hloosest hlast]
    exact gives_node hoperator (ihleft hbefore) (ihright hafter)

end Arithmetic

/-! ### Reducing in a state -/

namespace Reduction

section Reduce

variable {I : State → Prop} {V W : Type} {f : W → V} {apply : V → Operator → V → Run V}
  {combine : W → Operator → W → W} {allowed : List Operator}

/-- A pass whose applications come to those of a pure operation comes to the pass of that. -/
theorem yields_pass
    (happly : ∀ left operator right, operator ∈ allowed →
      Yields I (apply (f left) operator (f right)) (fun v => v = f (combine left operator right)))
    (tier : Tier) {pending : List (Operator × W)}
    (hpending : ∀ operation ∈ pending, operation.1 ∈ allowed) (accumulator : W)
    {carried : List (Operator × W)} (hcarried : ∀ operation ∈ carried, operation.1 ∈ allowed) :
    Yields I
      (pass apply tier (f accumulator) (carried.map (Prod.map id f)) (pending.map (Prod.map id f)))
      (fun result => ∃ value rest,
        pass (fun left operator right => (pure (combine left operator right) : Id W)) tier
          accumulator carried pending = pure (value, rest) ∧
        result = (f value, rest.map (Prod.map id f)) ∧
        ∀ operation ∈ rest, operation.1 ∈ allowed) := by
  induction pending generalizing accumulator carried with
  | nil =>
    refine yields_pure ⟨accumulator, carried.reverse, rfl, ?_, ?_⟩
    · rw [List.map_reverse]
    · exact fun operation hmem => hcarried operation (List.mem_reverse.mp hmem)
  | cons operation pending ih =>
    obtain ⟨operator, operand⟩ := operation
    obtain ⟨hoperator, hrest⟩ := List.forall_mem_cons.mp hpending
    simp only [List.map_cons, Prod.map_apply, id_eq]
    unfold pass
    by_cases htier : operator.tier = tier
    · simp only [if_pos htier]
      -- the left operand is the last one carried, or the accumulator if nothing was carried
      cases carried with
      | nil =>
        refine yields_bind (happly accumulator operator operand hoperator) ?_
        rintro _ rfl
        exact ih hrest _ hcarried
      | cons previous carried =>
        obtain ⟨previous, held⟩ := previous
        obtain ⟨hprevious, hothers⟩ := List.forall_mem_cons.mp hcarried
        refine yields_bind (happly held operator operand hoperator) ?_
        rintro _ rfl
        have hkept : ∀ operation ∈ (previous, combine held operator operand) :: carried,
            operation.1 ∈ allowed := List.forall_mem_cons.mpr ⟨hprevious, hothers⟩
        exact ih hrest accumulator hkept
    · simp only [if_neg htier]
      have hkept : ∀ operation ∈ (operator, operand) :: carried, operation.1 ∈ allowed :=
        List.forall_mem_cons.mpr ⟨hoperator, hcarried⟩
      exact ih hrest accumulator hkept

/-- A reduction yields what the reduction of the plain values comes to. -/
theorem yields_reduceTiers
    (happly : ∀ left operator right, operator ∈ allowed →
      Yields I (apply (f left) operator (f right)) (fun v => v = f (combine left operator right)))
    (tiers : List Tier) (accumulator : W) {pending : List (Operator × W)}
    (hpending : ∀ operation ∈ pending, operation.1 ∈ allowed) :
    Yields I (reduceTiers apply tiers (f accumulator) (pending.map (Prod.map id f)))
      (fun result => ∃ value rest,
        reduceTiers (fun left operator right => (pure (combine left operator right) : Id W)) tiers
          accumulator pending = pure (value, rest) ∧
        result = (f value, rest.map (Prod.map id f))) := by
  induction tiers generalizing accumulator pending with
  | nil => exact yields_pure ⟨accumulator, pending, rfl, rfl⟩
  | cons tier tiers ih =>
    unfold reduceTiers
    cases pending with
    | nil => exact yields_pure ⟨accumulator, [], rfl, rfl⟩
    | cons operation pending =>
      have hcarried : ∀ operation ∈ ([] : List (Operator × W)), operation.1 ∈ allowed :=
        fun _ hmem => absurd hmem List.not_mem_nil
      refine yields_bind (yields_pass happly tier hpending accumulator hcarried) ?_
      rintro _ ⟨value, rest, hpass, rfl, hrest⟩
      simp only [List.isEmpty_cons, Bool.false_eq_true, if_false, hpass, pure_bind]
      exact ih value hrest

/-- Reducing a chain in a state gives the value that the pure operation gives to the chain. -/
theorem yields_reduce
    (happly : ∀ left operator right, operator ∈ allowed →
      Yields I (apply (f left) operator (f right)) (fun v => v = f (combine left operator right)))
    (start : W) {operations : List (Operator × W)}
    (hoperations : ∀ operation ∈ operations, operation.1 ∈ allowed) :
    Yields I (reduce apply (f start) (operations.map (Prod.map id f)))
      (fun result => result.1 = f (chainValue combine start operations)) := by
  have htiers : ∀ operation ∈ operations, operation.1.tier ∈ Tier.all := by
    intro operation _
    cases operation.1.tier <;> decide
  refine (yields_reduceTiers happly Tier.all start hoperations).mono ?_
  rintro _ ⟨value, rest, hreduce, rfl⟩
  rw [reduceTiers_eq combine Tier.all start operations pairwise_rank_tiers htiers] at hreduce
  cases hreduce
  rfl

end Reduce

end Reduction

/-! ### Operators in a context -/

/-- A context inside of one where the standard operators were registered, with permissive contexts
on the way.  There are no other functions of operators in it and in the contexts around it. -/
structure Equipped (home context : Context) (state : State) : Prop where
  inside : PermissiveIn home context
  registered : ∃ earlier : State, home.id < earlier.store.size ∧
    ∀ typeName operator,
      (earlier.store.registry home.id).overloads (operatorKey typeName operator) = [] ∧
      (state.store.registry home.id).overloads (operatorKey typeName operator) =
        ((home.registerStandardOperators earlier).2.store.registry home.id).overloads
          (operatorKey typeName operator)
  bare : ∀ scope ∈ context.ancestry, scope.id ≠ home.id → ∀ typeName operator,
    (state.store.registry scope.id).overloads (operatorKey typeName operator) = []

section Equipped

variable {home context : Context} {state : State}

/-- Questions and new registries leave the context equipped. -/
theorem steady_equipped : Steady (Equipped home context) where
  log := fun _ h => ⟨h.inside, h.registered, h.bare⟩
  extend := by
    rintro state ⟨inside, registered, bare⟩
    refine ⟨inside, ?_, ?_⟩
    · simpa using registered
    · simpa using bare

/-- The number operators are there, and they are the standard ones. -/
theorem Equipped.number (h : Equipped home context state) {operator : Operator}
    (hnumber : operator ∈ numberOperators) :
    (state.store.registry home.id).overloads (operatorKey "Number" operator) ≠ [] ∧
      ∀ scope ∈ context.ancestry,
        ∀ function ∈ (state.store.registry scope.id).overloads (operatorKey "Number" operator),
          ∃ id, function = numberFunction id operator := by
  obtain ⟨earlier, placed, htable⟩ := h.registered
  obtain ⟨hbefore, hsame⟩ := htable "Number" operator
  obtain ⟨hpresent, hstandard⟩ :=
    overloads_number h.inside.home_policy placed hnumber hbefore
  rw [← hsame] at hpresent hstandard
  refine ⟨hpresent, ?_⟩
  intro scope hscope function hmem
  by_cases hid : scope.id = home.id
  · rw [hid] at hmem
    exact hstandard function hmem
  · rw [h.bare scope hscope hid] at hmem
    exact absurd hmem List.not_mem_nil

/-- Other types have no functions for the number operators. -/
theorem Equipped.elsewhere (h : Equipped home context state) {operator : Operator}
    (hnumber : operator ∈ numberOperators) {typeName : String} (plain : Text.Plain typeName)
    (hother : typeName ≠ "Number") :
    ∀ scope ∈ context.ancestry,
      (state.store.registry scope.id).overloads (operatorKey typeName operator) = [] := by
  intro scope hscope
  by_cases hid : scope.id = home.id
  · obtain ⟨earlier, placed, htable⟩ := h.registered
    obtain ⟨hbefore, hsame⟩ := htable typeName operator
    rw [hid, hsame]
    exact overloads_elsewhere h.inside.home_policy placed hnumber plain hother hbefore
  · exact h.bare scope hscope hid typeName operator

variable {operator : Operator} (hnumber : operator ∈ numberOperators)
  {arguments : List (Argument Value)}

include hnumber

/-- On a type other than that of numbers no number operator is found. -/
theorem yields_invoke_elsewhere {perform : Evaluator} {typeName : String}
    (plain : Text.Plain typeName) (hother : typeName ≠ "Number") :
    Yields (Equipped home context)
      (invoke perform context (MemberKey.text ⟨.operator, typeName, operator.symbol⟩) arguments)
      (fun outcome => outcome.success? = none) := by
  refine yields_invoke_idle steady_equipped (fun state h scope hscope => ?_)
  have hnone := h.elsewhere hnumber plain hother scope hscope
  intro function hmem
  rw [operatorKey] at hnone
  rw [hnone] at hmem
  exact absurd hmem List.not_mem_nil

/-- A number operator that does not bind its arguments is no success. -/
theorem yields_invoke_number_idle {perform : Evaluator}
    (idle : ∀ id, (numberFunction id operator).bind? arguments = none) :
    Yields (Equipped home context)
      (invoke perform context (MemberKey.text ⟨.operator, "Number", operator.symbol⟩) arguments)
      (fun outcome => outcome.success? = none) := by
  refine yields_invoke_idle steady_equipped (fun state h scope hscope function hmem => ?_)
  obtain ⟨id, rfl⟩ := (h.number hnumber).2 scope hscope function hmem
  exact idle id

/-- A number operator is found on the type of numbers and comes to its result. -/
theorem yields_invoke_number (inside : PermissiveIn home context) (a b : Number) (fuel : Nat) :
    Yields (Equipped home context)
      (invoke (perform (fuel + 1)) context (MemberKey.text ⟨.operator, "Number", operator.symbol⟩)
        [.named leftOperand a.toValue, .named rightOperand b.toValue])
      (fun outcome => outcome = .success (Arithmetic.combine operator a b)) := by
  refine yields_invoke_answering steady_equipped inside ?_
    (fun state h => (h.number hnumber).1) fuel
  intro state h scope hscope function hmem
  obtain ⟨id, rfl⟩ := (h.number hnumber).2 scope hscope function hmem
  cases a <;> cases b <;> exact ⟨_, _, rfl, rfl, rfl⟩

end Equipped

/-! ### Chains in a context -/

/-- The value of an operand that may be missing. -/
def operandValue : Option Int64 → Value
  | some n => .int n
  | none => .undefined

/-- An operand is fixed, whether it is defined or not. -/
theorem evaluationKind_operandValue (operand : Option Int64) :
    (operandValue operand).evaluationKind = .fixed := by
  cases operand <;> rfl

/-- An arithmetic operator on integers comes to the checked result. -/
theorem Arithmetic.combine_ints {operator : Operator} (h : operator ∈ operators) (a b : Int64) :
    combine operator (.int a) (.int b) = operandValue (onInts? operator a b) := by
  have hcompare : ∀ x y : Float, compare? operator x y = none := by
    intro x y
    simp only [operators, List.mem_cons, List.not_mem_nil, or_false] at h
    rcases h with rfl | rfl | rfl | rfl | rfl | rfl <;> rfl
  rw [combine, hcompare]
  cases onInts? operator a b <;> rfl

/-- The arithmetic operators are among those on numbers. -/
theorem Arithmetic.mem_numberOperators {operator : Operator} (h : operator ∈ operators) :
    operator ∈ numberOperators := by
  simp only [operators, List.mem_cons, List.not_mem_nil, or_false] at h
  rcases h with rfl | rfl | rfl | rfl | rfl | rfl <;> decide

section Chains

variable {home context : Context} (inside : PermissiveIn home context) {operator : Operator}
  (harithmetic : operator ∈ Arithmetic.operators)

include inside harithmetic

/-- The operator is looked for on the types of the left operand. -/
theorem yields_invokeOnTypes_operands (left right : Option Int64) (fuel : Nat) :
    Yields (Equipped home context)
      (invokeOnTypes (perform (fuel + 1)) context .operator operator.symbol
        [.named leftOperand (operandValue left), .named rightOperand (operandValue right)]
        (operandValue left).type.hierarchy none)
      (fun outcome => outcome.success?.getD .undefined =
        operandValue (Arithmetic.onDefined? left operator right)) := by
  have hnumber := Arithmetic.mem_numberOperators harithmetic
  have hundefined : ∀ outcome : Outcome Value, outcome.success? = none →
      outcome.success?.getD .undefined = operandValue none := by
    intro outcome houtcome
    rw [houtcome]
    rfl
  have hobject : ∀ arguments first, Yields (Equipped home context)
      (invokeOnTypes (perform (fuel + 1)) context .operator operator.symbol arguments ["Object"]
        first) (fun outcome => outcome.success? = none) := by
    intro arguments first
    exact yields_invokeOnTypes_idle
      (yields_invoke_elsewhere hnumber (by decide +kernel) (by decide))
      yields_invokeOnTypes_nil first
  cases left with
  | none =>
    -- undefined on the left: its own type and the top have no such operator
    refine Yields.mono ?_ hundefined
    exact yields_invokeOnTypes_idle
      (yields_invoke_elsewhere hnumber (by decide +kernel) (by decide)) (hobject _) none
  | some a =>
    refine yields_invokeOnTypes_idle
      (yields_invoke_elsewhere hnumber (by decide +kernel) (by decide)) (fun first => ?_) none
    cases right with
    | none =>
      -- undefined on the right: the operator is found, but undefined is no number to bind
      refine Yields.mono ?_ hundefined
      exact yields_invokeOnTypes_idle (yields_invoke_number_idle hnumber (fun _ => rfl))
        (hobject _) first
    | some b =>
      refine (yields_invokeOnTypes_answering
        (yields_invoke_number hnumber inside (.int a) (.int b) fuel) _ first).mono ?_
      rintro _ rfl
      exact Arithmetic.combine_ints harithmetic a b

/-- Applying an operator of arithmetic gives the result on 64-bit integers, and undefined if that is
missing or an operand is. -/
theorem yields_applyInChain (left right : Option Int64) (fuel : Nat) :
    Yields (Equipped home context)
      (applyInChain (perform (fuel + 1)) context (operandValue left) operator (operandValue right))
      (fun value => value = operandValue (Arithmetic.onDefined? left operator right)) := by
  obtain ⟨action, happly⟩ :=
    (Value.immediate_of_fixed (evaluationKind_operandValue left)).operator operator.symbol
  rw [applyInChain, happly _ _ _ (evaluationKind_operandValue right), invokeMember]
  have permits := Context.permits_of_permissive inside.policy
  refine yields_bind (yields_guarded_of_permits steady_equipped (permits _)
    (yields_invokeOnTypes_operands inside harithmetic left right fuel)) ?_
  rintro outcome houtcome
  cases outcome with
  | success value => exact yields_pure houtcome
  | empty => exact yields_pure houtcome
  | failure reason => exact yields_pure houtcome

end Chains

/-- Integers are resolved to themselves. -/
theorem resolveEach_ints (perform : Evaluator) (context : Context)
    (operations : List (Operator × Int64)) :
    resolveEach perform context Prod.snd (fun part value => (part.1, value))
      (operations.map (Prod.map id Value.int)) =
      pure (.ok (operations.map (Prod.map id Value.int))) := by
  induction operations with
  | nil => rfl
  | cons operation operations ih =>
    rw [List.map_cons, resolveEach, ih]
    rfl

/-- Integers are their own results, so that evaluating a chain of them is reducing it. -/
theorem evaluateChain_ints (perform : Evaluator) (apply : Value → Operator → Value → Run Value)
    (context : Context) (start : Int64) (operations : List (Operator × Int64)) :
    evaluateChain perform apply context (.int start) (operations.map (Prod.map id Value.int)) =
      (Reduction.reduce apply (.int start) (operations.map (Prod.map id Value.int)) >>=
        fun result => pure (.success result.1)) := by
  show (resolveEach perform context Prod.snd _ (operations.map (Prod.map id Value.int)) >>= _) = _
  rw [resolveEach_ints]
  rfl

/-- A chain of integers is evaluated to its checked value. -/
theorem yields_evaluate_chain {home context : Context} (inside : PermissiveIn home context)
    (start : Int64) {operations : List (Operator × Int64)}
    (harithmetic : ∀ operation ∈ operations, operation.1 ∈ Arithmetic.operators) (fuel : Nat) :
    Yields (Equipped home context)
      (perform (fuel + 2) context
        (.evaluate (.expression (.int start) (operations.map (Prod.map id Value.int)))))
      (fun outcome => outcome = .success (operandValue
        (chainValue Arithmetic.onDefined? (some start) (Arithmetic.present operations)))) := by
  have hpresent : ∀ operation ∈ Arithmetic.present operations,
      operation.1 ∈ Arithmetic.operators := by
    intro operation hmem
    obtain ⟨original, horiginal, rfl⟩ := List.mem_map.mp hmem
    exact harithmetic original horiginal
  have hshown : (Arithmetic.present operations).map (Prod.map id operandValue) =
      operations.map (Prod.map id Value.int) := by
    simp [Arithmetic.present, operandValue]
  have hreduce := Reduction.yields_reduce (fun left operator right hoperator =>
    yields_applyInChain inside hoperator left right fuel) (some start) hpresent
  rw [hshown] at hreduce
  show Yields _ (evaluateChain (perform (fuel + 1)) _ context _ _) _
  rw [evaluateChain_ints]
  refine yields_bind hreduce (fun reduced hreduced => ?_)
  exact yields_pure (congrArg Outcome.success hreduced)

/-- A chain of 64-bit integers and operators of arithmetic evaluates to the exact value of its
precedence tree if all nodes of the tree are defined, and to undefined if one is not. -/
theorem evaluate_chain_exact {home context : Context} {state : State}
    (equipped : Equipped home context state) (start : Int64) {operations : List (Operator × Int64)}
    (harithmetic : ∀ operation ∈ operations, operation.1 ∈ Arithmetic.operators) (fuel : Nat) :
    let tree := Reduction.Tree.ofChain start operations
    let result := (perform (fuel + 2) context
      (.evaluate (.expression (.int start) (operations.map (Prod.map id Value.int)))) state).1
    Parses start operations tree ∧
      (tree.Defined → ∃ n : Int64, result = some (.success (.int n)) ∧ n.toInt = tree.exact) ∧
      (¬ tree.Defined → result = some (.success .undefined)) := by
  intro tree result
  have parses : Parses start operations tree := parses_iff.mpr rfl
  have hgives := Arithmetic.gives_chainValue parses harithmetic
  obtain ⟨outcome, final, hrun, -, rfl⟩ :=
    yields_evaluate_chain equipped.inside start harithmetic fuel state equipped
  have hresult : result = some (.success (operandValue
      (chainValue Arithmetic.onDefined? (some start) (Arithmetic.present operations)))) :=
    congrArg Prod.fst hrun
  rw [hresult]
  refine ⟨parses, ?_⟩
  cases hvalue : chainValue Arithmetic.onDefined? (some start) (Arithmetic.present operations) with
  | some n =>
    rw [hvalue] at hgives
    exact ⟨fun _ => ⟨n, rfl, hgives.2⟩, fun hundefined => absurd hundefined hgives.1⟩
  | none =>
    rw [hvalue] at hgives
    exact ⟨fun hdefined => absurd hdefined hgives, fun _ => rfl⟩

/-- What follows `-2⁶³` in the chain `-2⁶³ / 2 + 2 ^ 3 * -1 - 7 % 4`. -/
def fittingChain : List (Operator × Int64) :=
  [(.divide, 2), (.add, 2), (.power, 3), (.multiply, -1), (.subtract, 7), (.modulo, 4)]

/-- What follows `2` in the chain `2 ^ 63 - 1`. -/
def overflowingChain : List (Operator × Int64) :=
  [(.power, 63), (.subtract, 1)]

/-- In a scope below the operators the first chain is exact, and the second one is undefined,
although its value would fit again. -/
theorem evaluate_chain_exact_scope :
    let home := Context.root ⟨0, .global, .permissive, {}⟩
    let earlier : State := { store := ⟨#[{}]⟩ }
    let state := (home.registerStandardOperators earlier).2.extend
    let scope := home.scopeAt 1 defaultMarker
    let evaluate := fun (start : Int64) (operations : List (Operator × Int64)) =>
      (perform 2 scope
        (.evaluate (.expression (.int start) (operations.map (Prod.map id Value.int)))) state).1
    Equipped home scope state ∧
      (∃ n : Int64, evaluate (-0x8000000000000000) fittingChain = some (.success (.int n)) ∧
        n.toInt = -4611686018427387915) ∧
      evaluate 2 overflowingChain = some (.success .undefined) := by
  intro home earlier state scope evaluate
  have equipped : Equipped home scope state := by
    have placed : home.id < earlier.store.size := by decide
    obtain ⟨entries, henlists, -⟩ := enlists_registerStandardOperators rfl placed
    refine ⟨.nested rfl (.home rfl), ⟨earlier, placed, ?_⟩, ?_⟩
    · intro typeName operator
      refine ⟨rfl, ?_⟩
      rw [State.store_extend, Store.registry_extend]
    · intro outer houter hne typeName operator
      rcases List.mem_cons.mp houter with rfl | hhome
      · -- the scope has the place behind the only one that was there
        have hsize : (home.registerStandardOperators earlier).2.store.size = 1 := henlists.size
        have hbare : (home.registerStandardOperators earlier).2.store.registry 1 = {} :=
          Store.registry_of_size_le (Nat.le_of_eq hsize)
        rw [State.store_extend, Store.registry_extend]
        exact congrArg (fun registry => registry.overloads (operatorKey typeName operator)) hbare
      · rw [List.mem_singleton.mp hhome] at hne
        exact absurd rfl hne
  have hdefined : (Reduction.Tree.ofChain (-0x8000000000000000) fittingChain).Defined := by
    decide +kernel
  have hundefined : ¬ (Reduction.Tree.ofChain 2 overflowingChain).Defined := by
    decide +kernel
  have hfitting : ∀ operation ∈ fittingChain, operation.1 ∈ Arithmetic.operators := by
    simp [fittingChain, Arithmetic.operators]
  have hoverflowing : ∀ operation ∈ overflowingChain, operation.1 ∈ Arithmetic.operators := by
    simp [overflowingChain, Arithmetic.operators]
  obtain ⟨-, hfits, -⟩ := evaluate_chain_exact equipped (-0x8000000000000000) hfitting 0
  obtain ⟨-, -, hoverflows⟩ := evaluate_chain_exact equipped 2 hoverflowing 0
  obtain ⟨n, hresult, hn⟩ := hfits hdefined
  exact ⟨equipped, ⟨n, hresult, hn.trans (by decide +kernel)⟩, hoverflows hundefined⟩

end GuardedScript

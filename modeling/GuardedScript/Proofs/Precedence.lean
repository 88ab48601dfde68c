import GuardedScript.Reduction

/-!
# Operator chains and their precedence trees

The conventional reading of a chain is a tree.  A chain without operators is a leaf.  Any other
chain is divided at the last operator of the loosest tier that occurs in it: what stands before that
operator is its left side, and its operand with what stands behind is its right side.  `Parses`
states these two rules, and `Tree.ofChain` computes the tree.

Reduction goes over the chain tier by tier instead.  The top statement,
`reduce_eq_eval_ofChain`, says that it gives the value of the tree and leaves no operator.  The
invariant of a pass is the value of the tree of the chain as it stands: accumulator, operators
carried over, operators still to come.  Applying an operator of the tightest tier that is left keeps
that value, wherever the operator stands.
-/

set_option autoImplicit false

namespace GuardedScript.Reduction

/-- An expression in which it is settled which operator takes which operands. -/
inductive Tree (V : Type)
  | leaf (value : V)
  | node (left : Tree V) (operator : Operator) (right : Tree V)

variable {V : Type}

/-- The value of a tree, from the leaves to the root. -/
def Tree.eval (apply : V → Operator → V → V) : Tree V → V
  | leaf value => value
  | node left operator right => apply (left.eval apply) operator (right.eval apply)

/-- No operator of a list binds more loosely than a given one. -/
def NoneLooser (operations : List (Operator × V)) (operator : Operator) : Prop :=
  ∀ operation ∈ operations, operation.1.tier.rank ≤ operator.tier.rank

/-- Every operator of a list binds more tightly than a given one. -/
def AllTighter (operations : List (Operator × V)) (operator : Operator) : Prop :=
  ∀ operation ∈ operations, operation.1.tier.rank < operator.tier.rank

/-- The tree of a chain.  A chain with operators is divided at the last operator of its loosest
tier. -/
inductive Parses : V → List (Operator × V) → Tree V → Prop
  | leaf (start : V) : Parses start [] (.leaf start)
  | node {start operand : V} {before after : List (Operator × V)} {operator : Operator}
      {left right : Tree V} (loosest : NoneLooser before operator)
      (last : AllTighter after operator) (hleft : Parses start before left)
      (hright : Parses operand after right) :
      Parses start (before ++ (operator, operand) :: after) (.node left operator right)

/-! ### Where a chain is divided -/

/-- The last operator of the loosest tier, between what stands before it and behind it. -/
def pivot? : List (Operator × V) →
    Option (List (Operator × V) × (Operator × V) × List (Operator × V))
  | [] => none
  | operation :: operations =>
    match pivot? operations with
    | none => some ([], operation, [])
    | some (before, pivot, after) =>
      if operation.1.tier.rank ≤ pivot.1.tier.rank then
        some (operation :: before, pivot, after)
      else
        some ([], operation, operations)

/-- A chain has a pivot unless it has no operators. -/
theorem pivot?_eq_none_iff {operations : List (Operator × V)} :
    pivot? operations = none ↔ operations = [] := by
  cases operations with
  | nil => simp [pivot?]
  | cons operation operations =>
    simp only [pivot?, reduceCtorEq, iff_false]
    split
    · simp
    · split <;> simp

/-- The pivot divides the chain, and it is the last operator of the loosest tier. -/
theorem pivot?_spec {operations before after : List (Operator × V)} {pivot : Operator × V}
    (h : pivot? operations = some (before, pivot, after)) :
    operations = before ++ pivot :: after ∧ NoneLooser before pivot.1 ∧
      AllTighter after pivot.1 := by
  induction operations generalizing before pivot after with
  | nil => simp [pivot?] at h
  | cons operation operations ih =>
    simp only [pivot?] at h
    cases hrest : pivot? operations with
    | none =>
      have hnil : operations = [] := pivot?_eq_none_iff.mp hrest
      simp only [hrest, Option.some.injEq, Prod.mk.injEq] at h
      obtain ⟨rfl, rfl, rfl⟩ := h
      subst hnil
      exact ⟨rfl, by simp [NoneLooser], by simp [AllTighter]⟩
    | some found =>
      obtain ⟨inner, other, outer⟩ := found
      obtain ⟨hsplit, hloosest, hlast⟩ := ih hrest
      simp only [hrest] at h
      split at h
      · next hle =>
        obtain ⟨rfl, rfl, rfl⟩ : operation :: inner = before ∧ other = pivot ∧ outer = after := by
          simpa using h
        refine ⟨by rw [hsplit]; rfl, ?_, hlast⟩
        intro o ho
        rcases List.mem_cons.mp ho with rfl | ho
        · exact hle
        · exact hloosest o ho
      · next hlt =>
        obtain ⟨rfl, rfl, rfl⟩ : [] = before ∧ operation = pivot ∧ operations = after := by
          simpa using h
        refine ⟨rfl, by simp [NoneLooser], ?_⟩
        -- everything behind is at most as loose as the pivot of the rest, which is tighter
        intro o ho
        rw [hsplit] at ho
        rcases List.mem_append.mp ho with ho | ho
        · have := hloosest o ho
          omega
        · rcases List.mem_cons.mp ho with rfl | ho
          · omega
          · have := hlast o ho
            omega

/-- There is only one place at which a chain can be divided. -/
theorem pivot?_append {before after : List (Operator × V)} {pivot : Operator × V}
    (loosest : NoneLooser before pivot.1) (last : AllTighter after pivot.1) :
    pivot? (before ++ pivot :: after) = some (before, pivot, after) := by
  induction before with
  | nil =>
    simp only [List.nil_append, pivot?]
    cases hrest : pivot? after with
    | none =>
      rw [pivot?_eq_none_iff] at hrest
      rw [hrest]
    | some found =>
      obtain ⟨inner, other, outer⟩ := found
      obtain ⟨hsplit, -, -⟩ := pivot?_spec hrest
      have hother : other.1.tier.rank < pivot.1.tier.rank := last other (by rw [hsplit]; simp)
      simp only [if_neg (Nat.not_le.mpr hother)]
  | cons operation before ih =>
    have hle : operation.1.tier.rank ≤ pivot.1.tier.rank := loosest operation (by simp)
    have hrest := ih (fun o ho => loosest o (List.mem_cons_of_mem _ ho))
    simp only [List.cons_append, pivot?, hrest, if_pos hle]

/-- Every chain with operators can be divided. -/
theorem exists_pivot {operations : List (Operator × V)} (h : operations ≠ []) :
    ∃ before operator operand after, operations = before ++ (operator, operand) :: after ∧
      NoneLooser before operator ∧ AllTighter after operator := by
  cases hp : pivot? operations with
  | none => exact absurd (pivot?_eq_none_iff.mp hp) h
  | some found =>
    obtain ⟨before, ⟨operator, operand⟩, after⟩ := found
    exact ⟨before, operator, operand, after, pivot?_spec hp⟩

/-! ### The tree of a chain -/

/-- Computes the tree of a chain. -/
def Tree.ofChain (start : V) (operations : List (Operator × V)) : Tree V :=
  match h : pivot? operations with
  | none => .leaf start
  | some (before, (operator, operand), after) =>
    have := congrArg List.length (pivot?_spec h).1
    .node (ofChain start before) operator (ofChain operand after)
termination_by operations.length
decreasing_by all_goals simp only [List.length_append, List.length_cons] at this; omega

/-- A chain without operations is a leaf. -/
@[simp]
theorem Tree.ofChain_nil (start : V) : Tree.ofChain start [] = .leaf start := by
  unfold Tree.ofChain
  rfl

/-- A chain that is divided at an operator has the trees of its sides below that operator. -/
theorem Tree.ofChain_append {before after : List (Operator × V)} {operator : Operator}
    (start operand : V) (loosest : NoneLooser before operator)
    (last : AllTighter after operator) :
    Tree.ofChain start (before ++ (operator, operand) :: after) =
      .node (Tree.ofChain start before) operator (Tree.ofChain operand after) := by
  have hpivot : pivot? (before ++ (operator, operand) :: after) =
      some (before, (operator, operand), after) := pivot?_append loosest last
  rw [Tree.ofChain]
  split
  · next h => rw [hpivot] at h; cases h
  · next h => rw [hpivot] at h; cases h; rfl

/-- The computed tree is the tree of the chain, and the chain has no other. -/
theorem parses_iff {start : V} {operations : List (Operator × V)} {tree : Tree V} :
    Parses start operations tree ↔ tree = Tree.ofChain start operations := by
  constructor
  · intro h
    induction h with
    | leaf start => rw [Tree.ofChain_nil]
    | node loosest last hleft hright ihleft ihright =>
      rw [Tree.ofChain_append _ _ loosest last, ihleft, ihright]
  · rintro rfl
    -- by induction on the length, since the two sides are no tails of the chain
    induction hn : operations.length using Nat.strongRecOn generalizing start operations with
    | ind n ih =>
      by_cases hnil : operations = []
      · subst hnil
        rw [Tree.ofChain_nil]
        exact .leaf start
      · obtain ⟨before, operator, operand, after, rfl, loosest, last⟩ := exists_pivot hnil
        simp only [List.length_append, List.length_cons] at hn
        rw [Tree.ofChain_append _ _ loosest last]
        exact .node loosest last (ih before.length (by omega) rfl)
          (ih after.length (by omega) rfl)

/-! ### Applying one operator keeps the value -/

/-- The value of the tree of a chain. -/
def chainValue (apply : V → Operator → V → V) (start : V) (operations : List (Operator × V)) : V :=
  (Tree.ofChain start operations).eval apply

variable (apply : V → Operator → V → V)

/-- A chain without operations has the value of its start. -/
@[simp]
theorem chainValue_nil (start : V) : chainValue apply start [] = start := by
  simp [chainValue, Tree.eval]

/-- The value of a chain that is divided at an operator. -/
theorem chainValue_append {before after : List (Operator × V)} {operator : Operator}
    (start operand : V) (loosest : NoneLooser before operator)
    (last : AllTighter after operator) :
    chainValue apply start (before ++ (operator, operand) :: after) =
      apply (chainValue apply start before) operator (chainValue apply operand after) := by
  simp only [chainValue, Tree.ofChain_append _ _ loosest last, Tree.eval]

/-- A first operator than which none binds more tightly may be applied at once. -/
theorem chainValue_cons {operator : Operator} {rest : List (Operator × V)} (start operand : V)
    (tightest : ∀ operation ∈ rest, operator.tier.rank ≤ operation.1.tier.rank) :
    chainValue apply start ((operator, operand) :: rest) =
      chainValue apply (apply start operator operand) rest := by
  induction hn : rest.length using Nat.strongRecOn generalizing rest with
  | ind n ih =>
    by_cases hnil : rest = []
    · subst hnil
      have h : chainValue apply start ([] ++ (operator, operand) :: []) =
          apply (chainValue apply start []) operator (chainValue apply operand []) :=
        chainValue_append apply start operand (by simp [NoneLooser]) (by simp [AllTighter])
      simpa using h
    · -- the rest is divided at the same operator with and without the first one
      obtain ⟨before, pivot, value, after, rfl, loosest, last⟩ := exists_pivot hnil
      have hpivot : operator.tier.rank ≤ pivot.tier.rank := tightest (pivot, value) (by simp)
      have hbefore : NoneLooser ((operator, operand) :: before) pivot := by
        intro o ho
        rcases List.mem_cons.mp ho with rfl | ho
        · exact hpivot
        · exact loosest o ho
      simp only [List.length_append, List.length_cons] at hn
      have hside : chainValue apply start ((operator, operand) :: before) =
          chainValue apply (apply start operator operand) before :=
        ih before.length (by omega)
          (fun o ho => tightest o (List.mem_append_left _ ho)) rfl
      rw [← List.cons_append, chainValue_append apply start value hbefore last, hside,
        chainValue_append apply _ value loosest last]

/-- Two elements at which one list is divided stand in either order, or are the same. -/
private theorem append_cons_cases {α : Type} {front rest before after : List α} {x y : α}
    (h : front ++ x :: rest = before ++ y :: after) :
    (∃ mid, before = front ++ x :: mid ∧ rest = mid ++ y :: after) ∨
      (front = before ∧ x = y ∧ rest = after) ∨
      ∃ mid, front = before ++ y :: mid ∧ after = mid ++ x :: rest := by
  rcases List.append_eq_append_iff.mp h with ⟨mid, hbefore, htail⟩ | ⟨mid, hfront, htail⟩
  · cases mid with
    | nil => exact .inr (.inl ⟨by simpa using hbefore.symm, by simpa using htail⟩)
    | cons head mid =>
      obtain ⟨rfl, rfl⟩ : x = head ∧ rest = mid ++ y :: after := by simpa using htail
      exact .inl ⟨mid, hbefore, rfl⟩
  · cases mid with
    | nil =>
      obtain ⟨rfl, rfl⟩ : y = x ∧ after = rest := by simpa using htail
      exact .inr (.inl ⟨by simpa using hfront, rfl, rfl⟩)
    | cons head mid =>
      obtain ⟨rfl, rfl⟩ : y = head ∧ after = mid ++ x :: rest := by simpa using htail
      exact .inr (.inr ⟨mid, hfront, rfl⟩)

/-- Behind an operator that binds more loosely, an operator than which none binds more tightly may
be applied to the operand of that operator. -/
theorem chainValue_append_cons {operator previous : Operator} {front rest : List (Operator × V)}
    (start value operand : V) (hprevious : operator.tier.rank < previous.tier.rank)
    (tightest : ∀ operation ∈ rest, operator.tier.rank ≤ operation.1.tier.rank) :
    chainValue apply start (front ++ (previous, value) :: (operator, operand) :: rest) =
      chainValue apply start (front ++ (previous, apply value operator operand) :: rest) := by
  induction hn : front.length + rest.length using Nat.strongRecOn
    generalizing start front rest with
  | ind n ih =>
    have hne : front ++ (previous, apply value operator operand) :: rest ≠ [] := by simp
    obtain ⟨before, pivot, side, after, hsplit, loosest, last⟩ := exists_pivot hne
    rw [hsplit, chainValue_append apply start side loosest last]
    -- the reduced chain is divided behind, at, or before the operand in question
    rcases append_cons_cases hsplit with ⟨mid, rfl, rfl⟩ | ⟨rfl, heq, rfl⟩ | ⟨mid, rfl, rfl⟩
    · have hle : previous.tier.rank ≤ pivot.tier.rank :=
        loosest (previous, apply value operator operand) (by simp)
      have hloosest : NoneLooser (front ++ (previous, value) :: (operator, operand) :: mid)
          pivot := by
        intro o ho
        simp only [List.mem_append, List.mem_cons] at ho
        rcases ho with ho | rfl | rfl | ho
        · exact loosest o (by simp [ho])
        · exact hle
        · exact Nat.le_trans (Nat.le_of_lt hprevious) hle
        · exact loosest o (by simp [ho])
      simp only [List.length_append, List.length_cons] at hn
      have hside := ih (front.length + mid.length) (by omega) start
        (fun o ho => tightest o (List.mem_append_left _ ho)) rfl
      have hassoc : front ++ (previous, value) :: (operator, operand) ::
          (mid ++ (pivot, side) :: after) =
          (front ++ (previous, value) :: (operator, operand) :: mid) ++
            (pivot, side) :: after := by simp
      rw [hassoc, chainValue_append apply start side hloosest last, hside]
    · obtain ⟨rfl, rfl⟩ := Prod.mk.inj heq
      have hlast : AllTighter ((operator, operand) :: rest) previous := by
        intro o ho
        rcases List.mem_cons.mp ho with rfl | ho
        · exact hprevious
        · exact last o ho
      rw [chainValue_append apply start value loosest hlast,
        chainValue_cons apply value operand tightest]
    · have hlt : previous.tier.rank < pivot.tier.rank :=
        last (previous, apply value operator operand) (by simp)
      have hlast : AllTighter (mid ++ (previous, value) :: (operator, operand) :: rest)
          pivot := by
        intro o ho
        simp only [List.mem_append, List.mem_cons] at ho
        rcases ho with ho | rfl | rfl | ho
        · exact last o (by simp [ho])
        · exact hlt
        · exact Nat.lt_trans hprevious hlt
        · exact last o (by simp [ho])
      simp only [List.length_append, List.length_cons] at hn
      have hside := ih (mid.length + rest.length) (by omega) side tightest rfl
      rw [List.append_assoc, List.cons_append,
        chainValue_append apply start side loosest hlast, hside]

/-! ### Passes -/

/-- The tiers are listed from tight to loose. -/
theorem pairwise_rank_tiers : Tier.all.Pairwise (fun tier other => tier.rank < other.rank) := by
  decide

section Passes

variable {m : Type → Type} [Monad m] [LawfulMonad m]

/-- A pass for a tier keeps the value of the chain and applies every operator of the tier, if what
is carried over and what else is to come belongs to looser tiers. -/
theorem pass_eq (tier : Tier) (tiers : List Tier) (accumulator : V)
    (carried pending : List (Operator × V)) (hlooser : ∀ other ∈ tiers, tier.rank < other.rank)
    (hcarried : ∀ operation ∈ carried, operation.1.tier ∈ tiers)
    (hpending : ∀ operation ∈ pending, operation.1.tier ∈ tier :: tiers) :
    ∃ value rest,
      pass (fun left operator right => (pure (apply left operator right) : m V)) tier accumulator
        carried pending = pure (value, rest) ∧
      chainValue apply value rest = chainValue apply accumulator (carried.reverse ++ pending) ∧
      ∀ operation ∈ rest, operation.1.tier ∈ tiers := by
  induction pending generalizing accumulator carried with
  | nil =>
    refine ⟨accumulator, carried.reverse, by simp [pass], by simp, ?_⟩
    intro operation h
    exact hcarried operation (List.mem_reverse.mp h)
  | cons operation pending ih =>
    obtain ⟨operator, operand⟩ := operation
    have hrest : ∀ other ∈ pending, other.1.tier ∈ tier :: tiers :=
      fun other h => hpending other (List.mem_cons_of_mem _ h)
    by_cases htier : operator.tier = tier
    · have htightest : ∀ other ∈ pending, operator.tier.rank ≤ other.1.tier.rank := by
        intro other h
        rcases List.mem_cons.mp (hrest other h) with heq | hmem
        · exact Nat.le_of_eq (by rw [heq, htier])
        · rw [htier]
          exact Nat.le_of_lt (hlooser _ hmem)
      cases carried with
      | nil =>
        obtain ⟨value, rest, hpass, hvalue, htiers⟩ :=
          ih (apply accumulator operator operand) [] (by simp) hrest
        refine ⟨value, rest, ?_, ?_, htiers⟩
        · simpa only [pass, if_pos htier, pure_bind] using hpass
        · rw [hvalue]
          exact (chainValue_cons apply accumulator operand htightest).symm
      | cons previous carried =>
        obtain ⟨previous, held⟩ := previous
        have hprevious : previous.tier ∈ tiers := hcarried (previous, held) (by simp)
        obtain ⟨value, rest, hpass, hvalue, htiers⟩ :=
          ih accumulator ((previous, apply held operator operand) :: carried) (by
            intro other h
            rcases List.mem_cons.mp h with rfl | h
            · exact hprevious
            · exact hcarried other (List.mem_cons_of_mem _ h)) hrest
        refine ⟨value, rest, ?_, ?_, htiers⟩
        · simpa only [pass, if_pos htier, pure_bind] using hpass
        · have hlt : operator.tier.rank < previous.tier.rank := htier ▸ hlooser _ hprevious
          rw [hvalue]
          simp only [List.reverse_cons, List.append_assoc, List.singleton_append]
          exact (chainValue_append_cons apply accumulator held operand hlt htightest).symm
    · have hoperator : operator.tier ∈ tiers := by
        rcases List.mem_cons.mp (hpending (operator, operand) (by simp)) with heq | hmem
        · exact absurd heq htier
        · exact hmem
      obtain ⟨value, rest, hpass, hvalue, htiers⟩ :=
        ih accumulator ((operator, operand) :: carried) (by
          intro other h
          rcases List.mem_cons.mp h with rfl | h
          · exact hoperator
          · exact hcarried other h) hrest
      refine ⟨value, rest, ?_, ?_, htiers⟩
      · simpa only [pass, if_neg htier] using hpass
      · rw [hvalue]
        simp

/-- Passes for tiers in the order from tight to loose give the value of a chain whose operators all
belong to these tiers, and leave no operator. -/
theorem reduceTiers_eq (tiers : List Tier) (accumulator : V) (pending : List (Operator × V))
    (hsorted : tiers.Pairwise (fun tier other => tier.rank < other.rank))
    (hpending : ∀ operation ∈ pending, operation.1.tier ∈ tiers) :
    reduceTiers (fun left operator right => (pure (apply left operator right) : m V)) tiers
      accumulator pending = pure (chainValue apply accumulator pending, []) := by
  induction tiers generalizing accumulator pending with
  | nil =>
    have hnil : pending = [] := by
      cases pending with
      | nil => rfl
      | cons operation pending => exact absurd (hpending operation (by simp)) (by simp)
    simp [reduceTiers, hnil]
  | cons tier tiers ih =>
    obtain ⟨hlooser, hrest⟩ := List.pairwise_cons.mp hsorted
    cases hempty : pending.isEmpty with
    | true =>
      have hnil : pending = [] := List.isEmpty_iff.mp hempty
      simp [reduceTiers, hnil]
    | false =>
      obtain ⟨value, rest, hpass, hvalue, htiers⟩ :=
        pass_eq (m := m) apply tier tiers accumulator [] pending hlooser (by simp) hpending
      have hkept : chainValue apply value rest = chainValue apply accumulator pending := by
        simpa using hvalue
      simp only [reduceTiers, hempty, Bool.false_eq_true, if_false, hpass, pure_bind]
      rw [ih value rest hrest htiers, hkept]

/-- Reducing a chain gives the value of its precedence tree, and no operator is left.  The tree is
the one that dividing the chain at the last operator of its loosest tier gives, and it is the only
one. -/
theorem reduce_eq_eval_ofChain (start : V) (operations : List (Operator × V)) :
    (∀ tree, Parses start operations tree ↔ tree = Tree.ofChain start operations) ∧
      reduce (fun left operator right => (pure (apply left operator right) : m V)) start
        operations = pure ((Tree.ofChain start operations).eval apply, []) := by
  refine ⟨fun tree => parses_iff, ?_⟩
  have hall : ∀ operation ∈ operations, operation.1.tier ∈ Tier.all := by
    intro operation _
    cases operation.1.tier <;> decide
  exact reduceTiers_eq apply Tier.all start operations pairwise_rank_tiers hall

end Passes

/-- The tree of `a - b * c ^ d ^ e - f == g` has the equality at its root, and takes both the
subtractions and the powers from the left. -/
theorem reduce_subtract_multiply_power_equal :
    LawfulMonad Id ∧
      reduce (fun left operator right => (pure ("(" ++ left ++ operator.symbol ++ right ++ ")") :
          Id String)) "a"
        [(.subtract, "b"), (.multiply, "c"), (.power, "d"), (.power, "e"), (.subtract, "f"),
          (.equal, "g")] =
        pure ("(((a-(b*((c^d)^e)))-f)==g)", []) := by
  refine ⟨inferInstance, ?_⟩
  rw [(reduce_eq_eval_ofChain (m := Id) _ "a" _).2]
  cbv

end GuardedScript.Reduction

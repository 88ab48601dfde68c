import GuardedScript.Proofs.Precedence
import GuardedScript.Evaluation.Step

/-!
# The order in which a chain applies its operators

A chain is reduced in passes over a list that gets shorter.  Here its operators are given their
places, and the order of the passes is written down ahead: a stable sort by tier (`turns`).
`applyAt` applies the operator of one turn where it stands, to the nearest value on its left, and
`applyInOrder` goes through the turns.

`reduce_eq_applyInOrder` says that a reduction is just that, in every monad and whatever the
applications do, and `applyInOrder_turns` that no operator is left.  The invariant of a pass is the
chain as it stands: the operators carried over and those still to come, with their places.

`evaluateChain_eq_some_iff_turns` puts the operands in front.  A chain resolves them from left to
right and ends with the first failure, or else takes all turns.
-/

set_option autoImplicit false

namespace GuardedScript

/-- A list with its places stands in the order of these places. -/
theorem pairwise_snd_zipIdx {α : Type} (l : List α) :
    l.zipIdx.Pairwise (fun entry other => entry.2 < other.2) := by
  have hplaces : (l.zipIdx.map Prod.snd).Pairwise (· < ·) := by
    rw [List.zipIdx_map_snd]
    exact List.pairwise_lt_range'
  exact List.pairwise_map.mp hplaces

namespace Reduction

/-! ### Turns -/

/-- Whether an operator need not wait for another, as far as their tiers say. -/
def tierLE (operator other : Operator) : Bool :=
  operator.tier.rank ≤ other.tier.rank

/-- Operators with their places, stably sorted by tier. -/
def turns (operators : List Operator) : List (Operator × Nat) :=
  operators.zipIdx.mergeSort (List.zipIdxLE tierLE)

/-- A turn comes before another: its tier binds more tightly, or the tiers are the same and it
stands further to the left. -/
def Precedes (turn other : Operator × Nat) : Prop :=
  turn.1.tier.rank < other.1.tier.rank ∨ turn.1.tier = other.1.tier ∧ turn.2 < other.2

/-- The turns of the given tiers among some labelled operators, tier by tier. -/
def turnsOf (tiers : List Tier) (labels : List (Operator × Nat)) : List (Operator × Nat) :=
  tiers.flatMap (fun tier => labels.filter (fun label => label.1.tier = tier))

section Turns

variable {operators : List Operator} {labels : List (Operator × Nat)} {tier : Tier}
  {tiers : List Tier}

/-- Every operator has one turn. -/
theorem turns_perm (operators : List Operator) : (turns operators).Perm operators.zipIdx :=
  List.mergeSort_perm _ _

/-- Every operator belongs to a tier of the list. -/
theorem mem_tiers (tier : Tier) : tier ∈ Tier.all := by
  cases tier <;> decide

/-- Operators with their places are all different. -/
theorem nodup_zipIdx (operators : List Operator) : operators.zipIdx.Nodup := by
  refine List.Pairwise.imp ?_ (pairwise_snd_zipIdx operators)
  rintro label other hlt rfl
  exact Nat.lt_irrefl _ hlt

/-- Turns of tight tiers come first, and from left to right within a tier. -/
theorem pairwise_turnsOf (hlabels : labels.Pairwise (fun label other => label.2 < other.2))
    (hsorted : tiers.Pairwise (fun tier other => tier.rank < other.rank)) :
    (turnsOf tiers labels).Pairwise Precedes := by
  rw [turnsOf, List.pairwise_flatMap]
  constructor
  · intro tier _
    refine (hlabels.filter _).imp_of_mem ?_
    intro label other hlabel hother hlt
    have hlabel : label.1.tier = tier := by simpa using (List.mem_filter.mp hlabel).2
    have hother : other.1.tier = tier := by simpa using (List.mem_filter.mp hother).2
    exact .inr ⟨hlabel.trans hother.symm, hlt⟩
  · refine hsorted.imp ?_
    intro tier next hlt label hlabel other hother
    have hlabel : label.1.tier = tier := by simpa using (List.mem_filter.mp hlabel).2
    have hother : other.1.tier = next := by simpa using (List.mem_filter.mp hother).2
    exact .inl (by rw [hlabel, hother]; exact hlt)

/-- The turns of the first tier come before those of the others. -/
theorem turnsOf_cons : turnsOf (tier :: tiers) labels =
    labels.filter (fun label => label.1.tier = tier) ++ turnsOf tiers labels := by
  rw [turnsOf, List.flatMap_cons, turnsOf]

/-- Without operators there are no turns. -/
@[simp]
theorem turnsOf_nil : turnsOf tiers [] = [] := by
  simp [turnsOf, List.flatMap_eq_nil_iff]

/-- Labels of a tier have no turn among the other tiers. -/
theorem turnsOf_filter (hfresh : tier ∉ tiers) :
    turnsOf tiers (labels.filter (fun label => !decide (label.1.tier = tier))) =
      turnsOf tiers labels := by
  refine congrArg List.flatten (List.map_congr_left ?_)
  intro other hother
  rw [List.filter_filter]
  refine List.filter_congr ?_
  intro label _
  by_cases htier : label.1.tier = other
  · have hne : label.1.tier ≠ tier := by
      rw [htier]
      exact fun heq => hfresh (heq ▸ hother)
    simp [htier, htier ▸ hne]
  · simp [htier]

/-- Labels whose tiers are given without repetition all have a turn. -/
theorem turnsOf_perm (hnodup : tiers.Nodup) (hall : ∀ label ∈ labels, label.1.tier ∈ tiers) :
    (turnsOf tiers labels).Perm labels := by
  induction tiers generalizing labels with
  | nil =>
    have hnil : labels = [] := List.eq_nil_iff_forall_not_mem.mpr
      (fun label h => absurd (hall label h) (List.not_mem_nil))
    simp [turnsOf, hnil]
  | cons tier tiers ih =>
    obtain ⟨hfresh, hnodup⟩ := List.nodup_cons.mp hnodup
    have hrest : (turnsOf tiers labels).Perm
        (labels.filter (fun label => !decide (label.1.tier = tier))) := by
      rw [← turnsOf_filter hfresh]
      refine ih hnodup (fun label h => ?_)
      obtain ⟨hmem, hne⟩ := List.mem_filter.mp h
      exact (List.mem_cons.mp (hall label hmem)).resolve_left (by simpa using hne)
    exact (hrest.append_left _).trans (List.filter_append_perm _ _)

/-- No tier is listed twice. -/
theorem nodup_tiers : Tier.all.Nodup := by
  decide

/-- The order by which a stable sort by tier is a sort. -/
theorem zipIdxLE_tierLE_iff {label other : Operator × Nat} :
    List.zipIdxLE tierLE label other = true ↔
      label.1.tier.rank < other.1.tier.rank ∨
        label.1.tier.rank = other.1.tier.rank ∧ label.2 ≤ other.2 := by
  simp only [List.zipIdxLE, tierLE, decide_eq_true_eq]
  split <;> (try split) <;> simp <;> omega

/-- Sorting by tier goes through the tiers one by one. -/
theorem turns_eq_turnsOf (operators : List Operator) :
    turns operators = turnsOf Tier.all operators.zipIdx := by
  have hperm : (turnsOf Tier.all operators.zipIdx).Perm operators.zipIdx :=
    turnsOf_perm nodup_tiers (fun label _ => mem_tiers _)
  have htrans : ∀ a b c : Operator, tierLE a b = true → tierLE b c = true → tierLE a c = true := by
    intro a b c hab hbc
    simp only [tierLE, decide_eq_true_eq] at hab hbc ⊢
    exact Nat.le_trans hab hbc
  have htotal : ∀ a b : Operator, (tierLE a b || tierLE b a) = true := by
    intro a b
    simpa [tierLE] using Nat.le_total a.tier.rank b.tier.rank
  -- both lists are sorted by the order that breaks ties by place
  refine List.Perm.eq_of_pairwise ?_
    (List.pairwise_mergeSort (List.zipIdxLE_trans htrans) (List.zipIdxLE_total htotal) _)
    ?_ ((turns_perm operators).trans hperm.symm)
  · rintro ⟨operator, place⟩ ⟨other, otherPlace⟩ hmem hother hle hge
    rw [zipIdxLE_tierLE_iff] at hle hge
    obtain rfl : place = otherPlace := by
      simp only at hle hge
      omega
    -- an operator is determined by its place
    have hmem : operators[place]? = some operator :=
      List.mem_zipIdx_iff_getElem?.mp ((turns_perm operators).mem_iff.mp hmem)
    have hother : operators[place]? = some other :=
      List.mem_zipIdx_iff_getElem?.mp (hperm.mem_iff.mp hother)
    rw [Option.some.inj (hmem.symm.trans hother)]
  · refine (pairwise_turnsOf (pairwise_snd_zipIdx operators) pairwise_rank_tiers).imp ?_
    rintro label other (hlt | ⟨heq, hlt⟩)
    · exact zipIdxLE_tierLE_iff.mpr (.inl hlt)
    · exact zipIdxLE_tierLE_iff.mpr (.inr ⟨congrArg Tier.rank heq, Nat.le_of_lt hlt⟩)

/-- The turns are in order. -/
theorem pairwise_turns (operators : List Operator) : (turns operators).Pairwise Precedes := by
  rw [turns_eq_turnsOf]
  exact pairwise_turnsOf (pairwise_snd_zipIdx operators) pairwise_rank_tiers

-- in `a && b - c * d + e` the conjunction, which stands first, has the last turn
example : turns [.and, .subtract, .multiply, .add] =
    [(.multiply, 2), (.subtract, 1), (.add, 3), (.and, 0)] := by
  rw [turns_eq_turnsOf]
  decide

end Turns

/-! ### Applying operators where they stand -/

/-- An operator of a chain with its place and its operand. -/
structure Placed (V : Type) where
  operator : Operator
  place : Nat
  operand : V

section Chains

variable {m : Type → Type} [Monad m] {V : Type}

/-- The operator and its operand, without the place. -/
def Placed.operation (placed : Placed V) : Operator × V :=
  (placed.operator, placed.operand)

/-- The operator and its place, which no application changes. -/
def Placed.label (placed : Placed V) : Operator × Nat :=
  (placed.operator, placed.place)

/-- The operators of a chain with their places. -/
def arrange (operations : List (Operator × V)) : List (Placed V) :=
  operations.zipIdx.map (fun entry => ⟨entry.1.1, entry.2, entry.1.2⟩)

/-- Takes one turn: applies the operator with a label, if it still stands in the chain, to the
nearest value on its left.  The result takes the place of that value. -/
def applyAt (apply : V → Operator → V → m V) (label : Operator × Nat) :
    V → List (Placed V) → m (V × List (Placed V))
  | value, [] => pure (value, [])
  | value, next :: chain =>
    if next.label = label then do
      let combined ← apply value next.operator next.operand
      pure (combined, chain)
    else do
      let (operand, chain) ← applyAt apply label next.operand chain
      pure (value, { next with operand } :: chain)

/-- Takes turns one after the other. -/
def applyInOrder (apply : V → Operator → V → m V) :
    List (Operator × Nat) → V → List (Placed V) → m (V × List (Placed V))
  | [], value, chain => pure (value, chain)
  | label :: labels, value, chain => do
    let (value, chain) ← applyAt apply label value chain
    applyInOrder apply labels value chain

end Chains

section Application

variable {m : Type → Type} [Monad m] [LawfulMonad m] {V β : Type} (apply : V → Operator → V → m V)

/-- The first operator of a chain is applied to the accumulator. -/
theorem applyAt_head (value : V) (next : Placed V) (chain : List (Placed V)) :
    applyAt apply next.label value (next :: chain) =
      (fun combined => (combined, chain)) <$> apply value next.operator next.operand := by
  rw [applyAt, if_pos rfl, map_eq_pure_bind]

/-- Any other operator is applied to the operand of the one before it. -/
theorem applyAt_append (value : V) (front : List (Placed V)) (last next : Placed V)
    (chain : List (Placed V)) (hfresh : next.label ∉ (front ++ [last]).map Placed.label) :
    applyAt apply next.label value (front ++ last :: next :: chain) =
      (fun combined => (value, front ++ { last with operand := combined } :: chain)) <$>
        apply last.operand next.operator next.operand := by
  induction front generalizing value with
  | nil =>
    have hlast : last.label ≠ next.label := by
      simpa [eq_comm] using hfresh
    rw [List.nil_append, applyAt, if_neg hlast, applyAt_head]
    simp
  | cons first front ih =>
    simp only [List.cons_append, List.map_cons, List.mem_cons, not_or] at hfresh
    rw [List.cons_append, applyAt, if_neg (fun h => hfresh.1 h.symm), ih _ hfresh.2]
    simp

/-- What follows a turn may rely on the operator with that label being gone and the other labels
being as before. -/
theorem applyAt_bind_congr (label : Operator × Nat) (value : V) {chain : List (Placed V)}
    (hnodup : (chain.map Placed.label).Nodup) {next other : V × List (Placed V) → m β}
    (h : ∀ value rest, rest.map Placed.label = (chain.map Placed.label).filter (· ≠ label) →
      next (value, rest) = other (value, rest)) :
    applyAt apply label value chain >>= next = applyAt apply label value chain >>= other := by
  induction chain generalizing value next other with
  | nil => simpa [applyAt] using h value [] rfl
  | cons first chain ih =>
    obtain ⟨hfresh, hnodup⟩ := List.nodup_cons.mp hnodup
    rw [applyAt]
    split
    · next hlabel =>
      simp only [bind_assoc, pure_bind]
      refine bind_congr (fun combined => h combined chain ?_)
      subst hlabel
      rw [List.map_cons, List.filter_cons_of_neg (by simp), List.filter_eq_self.mpr]
      intro label hlabel
      simpa using ne_of_mem_of_not_mem hlabel hfresh
    · next hlabel =>
      simp only [bind_assoc, pure_bind]
      refine ih _ hnodup (fun operand rest hrest => h value ({ first with operand } :: rest) ?_)
      rw [List.map_cons, List.map_cons, List.filter_cons_of_pos (by simpa using hlabel), ← hrest]
      rfl

/-- Operators are applied in one part of the order and then in the other. -/
theorem applyInOrder_append (labels others : List (Operator × Nat)) (value : V)
    (chain : List (Placed V)) :
    applyInOrder apply (labels ++ others) value chain =
      applyInOrder apply labels value chain >>=
        fun reached => applyInOrder apply others reached.1 reached.2 := by
  induction labels generalizing value chain with
  | nil => simp [applyInOrder]
  | cons label labels ih =>
    simp only [List.cons_append, applyInOrder, bind_assoc]
    exact bind_congr (fun reached => ih reached.1 reached.2)

/-- What follows some turns may rely on the operators of these turns being gone and the other labels
being as before. -/
theorem applyInOrder_bind_congr (labels : List (Operator × Nat)) (value : V)
    {chain : List (Placed V)} (hnodup : (chain.map Placed.label).Nodup)
    {next other : V × List (Placed V) → m β}
    (h : ∀ value rest, rest.map Placed.label = (chain.map Placed.label).filter (· ∉ labels) →
      next (value, rest) = other (value, rest)) :
    applyInOrder apply labels value chain >>= next =
      applyInOrder apply labels value chain >>= other := by
  induction labels generalizing value chain with
  | nil =>
    rw [applyInOrder, pure_bind, pure_bind]
    exact h value chain (List.filter_eq_self.mpr (by simp)).symm
  | cons label labels ih =>
    simp only [applyInOrder, bind_assoc]
    refine applyAt_bind_congr apply label value hnodup (fun value rest hrest => ?_)
    refine ih value (hrest ▸ hnodup.filter _) (fun value left hleft => h value left ?_)
    rw [hleft, hrest, List.filter_filter]
    refine List.filter_congr (fun other _ => ?_)
    simp [Bool.and_comm]

end Application

/-! ### Passes -/

section Passes

variable {m : Type → Type} [Monad m] [LawfulMonad m] {V : Type} (apply : V → Operator → V → m V)

/-- A pass takes the turns of its tier among the operators that are to come, from left to right. -/
theorem pass_eq_applyInOrder (tier : Tier) (accumulator : V) (carried pending : List (Placed V))
    (hnodup : ((carried.reverse ++ pending).map Placed.label).Nodup) :
    pass apply tier accumulator (carried.map Placed.operation) (pending.map Placed.operation) =
      (fun reached => (reached.1, reached.2.map Placed.operation)) <$>
        applyInOrder apply
          ((pending.map Placed.label).filter (fun label => label.1.tier = tier)) accumulator
          (carried.reverse ++ pending) := by
  induction pending generalizing accumulator carried with
  | nil => simp [pass, applyInOrder]
  | cons next pending ih =>
    rw [List.map_cons, List.map_cons, Placed.operation]
    by_cases htier : next.operator.tier = tier
    · rw [List.filter_cons_of_pos (by exact decide_eq_true htier), applyInOrder]
      cases carried with
      | nil =>
        rw [List.reverse_nil, List.nil_append, applyAt_head]
        simp only [List.map_nil, pass, if_pos htier, bind_map_left, map_bind]
        refine bind_congr (fun combined => ?_)
        exact ih combined [] (by simpa using (List.nodup_cons.mp hnodup).2)
      | cons last carried =>
        have hchain : (last :: carried).reverse ++ next :: pending =
            carried.reverse ++ last :: next :: pending := by simp
        rw [hchain] at hnodup
        have hfresh : next.label ∉ (carried.reverse ++ [last]).map Placed.label := by
          intro hmem
          have hnodup : ((carried.reverse ++ [last]).map Placed.label ++
              next.label :: pending.map Placed.label).Nodup := by simpa using hnodup
          exact (List.nodup_append.mp hnodup).2.2 _ hmem _ (List.mem_cons_self ..) rfl
        rw [hchain, applyAt_append apply _ _ _ _ _ hfresh, List.map_cons, Placed.operation]
        simp only [pass, if_pos htier, bind_map_left, map_bind]
        refine bind_congr (fun combined => ?_)
        have hrest := ih accumulator ({ last with operand := combined } :: carried) (by
          refine List.Nodup.sublist ?_ hnodup
          simp [Placed.label])
        simpa [Placed.operation] using hrest
    · rw [List.filter_cons_of_neg (by exact mt of_decide_eq_true htier)]
      simp only [pass, if_neg htier]
      have hrest := ih accumulator (next :: carried) (by simpa using hnodup)
      simpa [Placed.operation] using hrest

/-- Passes for tiers take the turns of these tiers. -/
theorem reduceTiers_eq_applyInOrder {tiers : List Tier} (htiers : tiers.Nodup) (accumulator : V)
    (chain : List (Placed V)) (hnodup : (chain.map Placed.label).Nodup) :
    reduceTiers apply tiers accumulator (chain.map Placed.operation) =
      (fun reached => (reached.1, reached.2.map Placed.operation)) <$>
        applyInOrder apply (turnsOf tiers (chain.map Placed.label)) accumulator chain := by
  induction tiers generalizing accumulator chain with
  | nil => simp [reduceTiers, turnsOf, applyInOrder]
  | cons tier tiers ih =>
    obtain ⟨hfresh, htiers⟩ := List.nodup_cons.mp htiers
    cases chain with
    | nil => simp [reduceTiers, applyInOrder]
    | cons first chain =>
      have hmore : ((first :: chain).map Placed.operation).isEmpty = false := rfl
      have hpass := pass_eq_applyInOrder apply tier accumulator [] (first :: chain) hnodup
      rw [List.map_nil, List.reverse_nil, List.nil_append] at hpass
      simp only [reduceTiers, hmore, Bool.false_eq_true, if_false]
      rw [hpass, turnsOf_cons, applyInOrder_append, bind_map_left, map_bind]
      -- what the pass leaves is labelled as before, less its own tier
      refine applyInOrder_bind_congr apply _ _ hnodup (fun value rest hrest => ?_)
      have hkept : rest.map Placed.label = ((first :: chain).map Placed.label).filter
          (fun label => !decide (label.1.tier = tier)) := by
        rw [hrest]
        refine List.filter_congr (fun label hlabel => ?_)
        simp only [List.mem_filter, hlabel, true_and, decide_eq_true_eq, decide_not]
      simp only
      rw [ih htiers value rest (hkept ▸ hnodup.filter _), hkept, turnsOf_filter hfresh]

/-- To arrange a chain keeps its operations. -/
theorem map_operation_arrange (operations : List (Operator × V)) :
    (arrange operations).map Placed.operation = operations := by
  rw [arrange, List.map_map]
  exact List.zipIdx_map_fst 0 operations

/-- The parts of an arranged chain are labelled with the operators and their places. -/
theorem map_label_arrange (operations : List (Operator × V)) :
    (arrange operations).map Placed.label = (operations.map Prod.fst).zipIdx := by
  rw [arrange, List.map_map, List.zipIdx_map]
  rfl

/-- The labels of an arranged chain are all different. -/
theorem nodup_label_arrange (operations : List (Operator × V)) :
    ((arrange operations).map Placed.label).Nodup := by
  rw [map_label_arrange]
  exact nodup_zipIdx _

/-- Reducing a chain takes the turns of its operators. -/
theorem reduce_eq_applyInOrder (start : V) (operations : List (Operator × V)) :
    reduce apply start operations =
      (fun reached => (reached.1, reached.2.map Placed.operation)) <$>
        applyInOrder apply (turns (operations.map Prod.fst)) start (arrange operations) := by
  have h := reduceTiers_eq_applyInOrder apply nodup_tiers start (arrange operations)
    (nodup_label_arrange operations)
  rwa [map_operation_arrange, map_label_arrange, ← turns_eq_turnsOf] at h

/-- No operator is left when all turns are taken. -/
theorem applyInOrder_turns (start : V) (operations : List (Operator × V)) :
    applyInOrder apply (turns (operations.map Prod.fst)) start (arrange operations) =
      (fun reached => (reached.1, [])) <$>
        applyInOrder apply (turns (operations.map Prod.fst)) start (arrange operations) := by
  rw [map_eq_pure_bind]
  refine (bind_pure _).symm.trans ?_
  refine applyInOrder_bind_congr apply _ _ (nodup_label_arrange operations) ?_
  intro value rest hrest
  have hnone : rest.map Placed.label = [] := by
    rw [hrest, map_label_arrange, List.filter_eq_nil_iff]
    intro label hlabel
    simpa using (turns_perm _).mem_iff.mpr hlabel
  rw [List.map_eq_nil_iff.mp hnone]

end Passes

/-! ### The sequence of applications -/

section Logs

variable {m : Type → Type} [Monad m] {V : Type}

/-- Applies an operator and writes it down. -/
def logged (apply : V → Operator → V → m V) (left : V) (operator : Operator) (right : V) :
    StateT (List Operator) m V := do
  modify (· ++ [operator])
  apply left operator right

variable [LawfulMonad m] (apply : V → Operator → V → m V)

/-- A turn whose operator stands in the chain applies that operator and no other. -/
theorem run_applyAt_logged {label : Operator × Nat} (value : V) {chain : List (Placed V)}
    (hmem : label ∈ chain.map Placed.label) (log : List Operator) :
    (applyAt (logged apply) label value chain).run log =
      (fun reached => (reached, log ++ [label.1])) <$> applyAt apply label value chain := by
  induction chain generalizing value with
  | nil => cases hmem
  | cons next chain ih =>
    by_cases hlabel : next.label = label
    · subst hlabel
      simp [applyAt, logged, Placed.label]
    · have hmem : label ∈ chain.map Placed.label :=
        (List.mem_cons.mp hmem).resolve_left (fun heq => hlabel heq.symm)
      simp [applyAt, if_neg hlabel, ih _ hmem]

/-- Turns whose operators stand in the chain apply these operators in the order of the turns. -/
theorem run_applyInOrder_logged {labels : List (Operator × Nat)} (hlabels : labels.Nodup)
    (value : V) {chain : List (Placed V)} (hnodup : (chain.map Placed.label).Nodup)
    (hmem : ∀ label ∈ labels, label ∈ chain.map Placed.label) (log : List Operator) :
    (applyInOrder (logged apply) labels value chain).run log =
      (fun reached => (reached, log ++ labels.map Prod.fst)) <$>
        applyInOrder apply labels value chain := by
  induction labels generalizing value chain log with
  | nil => simp [applyInOrder]
  | cons label labels ih =>
    obtain ⟨hfresh, hlabels⟩ := List.nodup_cons.mp hlabels
    simp only [applyInOrder, StateT.run_bind, map_bind]
    rw [run_applyAt_logged apply value (hmem label (List.mem_cons_self ..)), bind_map_left]
    refine applyAt_bind_congr apply label value hnodup (fun value rest hrest => ?_)
    have hrestMem : ∀ other ∈ labels, other ∈ rest.map Placed.label := by
      intro other hother
      rw [hrest]
      refine List.mem_filter.mpr ⟨hmem other (List.mem_cons_of_mem _ hother), ?_⟩
      simpa using ne_of_mem_of_not_mem hother hfresh
    simpa using ih hlabels value (hrest ▸ hnodup.filter _) hrestMem (log ++ [label.1])

/-- The operators that a reduction applies, in the order of the applications, are those of the chain
stably sorted by tier, whatever the applications do. -/
theorem run_reduce_logged (start : V) (operations : List (Operator × V)) (log : List Operator) :
    (reduce (logged apply) start operations).run log =
      (fun reached => (reached, log ++ (operations.map Prod.fst).mergeSort tierLE)) <$>
        reduce apply start operations := by
  have hperm := turns_perm (operations.map Prod.fst)
  have hmem : ∀ label ∈ turns (operations.map Prod.fst),
      label ∈ (arrange operations).map Placed.label := by
    intro label hlabel
    rw [map_label_arrange]
    exact hperm.mem_iff.mp hlabel
  have hsorted : (turns (operations.map Prod.fst)).map Prod.fst =
      (operations.map Prod.fst).mergeSort tierLE := List.mergeSort_zipIdx
  rw [reduce_eq_applyInOrder, reduce_eq_applyInOrder, StateT.run_map,
    run_applyInOrder_logged apply (hperm.nodup_iff.mpr (nodup_zipIdx _)) start
      (nodup_label_arrange operations) hmem, hsorted]
  simp only [Functor.map_map]

end Logs

end Reduction

/-! ### Operands -/

section Operands

variable (perform : Evaluator) (context : Context)

/-- A run that resolves values from left to right, with what they come to. -/
inductive Operands : List Value → State → List Value → State → Prop
  | nil (state : State) : Operands [] state [] state
  | cons {part value : Value} {parts values : List Value} {outcome : Outcome Value}
      {state reached final : State}
      (resolved : resolve perform context part state = (some outcome, reached))
      (settled : outcome.settle = .ok value) (rest : Operands parts reached values final) :
      Operands (part :: parts) state (value :: values) final

/-- A run that resolves values from left to right and ends with the first one that fails. -/
inductive FirstFailure : List Value → State → Failure → State → Prop
  | here {part : Value} {reason : Failure} {state final : State} (parts : List Value)
      (failed : resolve perform context part state = (some (.failure reason), final)) :
      FirstFailure (part :: parts) state reason final
  | later {part value : Value} {parts : List Value} {outcome : Outcome Value} {reason : Failure}
      {state reached final : State}
      (resolved : resolve perform context part state = (some outcome, reached))
      (settled : outcome.settle = .ok value) (rest : FirstFailure parts reached reason final) :
      FirstFailure (part :: parts) state reason final

variable {perform context}

/-- Only a failure is an error, and it is kept as it is. -/
theorem Outcome.settle_eq_error_iff {outcome : Outcome Value} {reason : Failure} :
    outcome.settle = .error reason ↔ outcome = .failure reason := by
  cases outcome <;> simp [Outcome.settle]

/-- There is one value for each operand. -/
theorem Operands.length_eq {parts values : List Value} {state final : State}
    (h : Operands perform context parts state values final) : values.length = parts.length := by
  induction h with
  | nil state => rfl
  | cons _ _ _ ih => rw [List.length_cons, List.length_cons, ih]

/-- If all operands have values then the operations are rebuilt with them. -/
theorem Operands.resolveEach_eq {parts values : List Value} {state final : State}
    (h : Operands perform context parts state values final)
    {operations : List (Operator × Value)} (hparts : operations.map Prod.snd = parts) :
    resolveEach perform context Prod.snd (fun part value => (part.1, value)) operations state =
      (some (.ok ((operations.map Prod.fst).zip values)), final) := by
  induction h generalizing operations with
  | nil state =>
    rw [List.map_eq_nil_iff.mp hparts]
    rfl
  | cons resolved settled _ ih =>
    obtain ⟨operation, operations, rfl, rfl, rfl⟩ := List.map_eq_cons_iff.mp hparts
    rw [resolveEach, Run.bind_apply_of_some resolved]
    simp only [settled]
    rw [Run.bind_apply_of_some (ih rfl)]
    rfl

/-- The first operand that fails ends the operations with its failure. -/
theorem FirstFailure.resolveEach_eq {parts : List Value} {state final : State} {reason : Failure}
    (h : FirstFailure perform context parts state reason final)
    {operations : List (Operator × Value)} (hparts : operations.map Prod.snd = parts) :
    resolveEach perform context Prod.snd (fun part value => (part.1, value)) operations state =
      (some (.error reason), final) := by
  induction h generalizing operations with
  | here parts failed =>
    obtain ⟨operation, operations, rfl, rfl, rfl⟩ := List.map_eq_cons_iff.mp hparts
    rw [resolveEach, Run.bind_apply_of_some failed]
    rfl
  | later resolved settled _ ih =>
    obtain ⟨operation, operations, rfl, rfl, rfl⟩ := List.map_eq_cons_iff.mp hparts
    rw [resolveEach, Run.bind_apply_of_some resolved]
    simp only [settled]
    rw [Run.bind_apply_of_some (ih rfl)]
    rfl

/-- Resolving the operands of a chain either resolves all of them or ends with the first failure. -/
theorem operands_or_firstFailure {operations : List (Operator × Value)} {state final : State}
    {result : Except Failure (List (Operator × Value))}
    (h : resolveEach perform context Prod.snd (fun part value => (part.1, value)) operations state =
      (some result, final)) :
    (∃ values, Operands perform context (operations.map Prod.snd) state values final ∧
      result = .ok ((operations.map Prod.fst).zip values)) ∨
    ∃ reason, FirstFailure perform context (operations.map Prod.snd) state reason final ∧
      result = .error reason := by
  induction operations generalizing state final result with
  | nil =>
    cases h
    exact .inl ⟨[], .nil _, rfl⟩
  | cons operation operations ih =>
    rw [resolveEach, Run.bind_apply] at h
    split at h
    · next outcome reached hresolved =>
      cases hsettled : outcome.settle with
      | error reason =>
        rw [Outcome.settle_eq_error_iff] at hsettled
        subst hsettled
        cases h
        exact .inr ⟨reason, .here _ hresolved, rfl⟩
      | ok value =>
        simp only [hsettled] at h
        rw [Run.bind_apply] at h
        split at h
        · next rest middle hrest =>
          rcases ih hrest with ⟨values, hoperands, rfl⟩ | ⟨reason, hfirst, rfl⟩
          · cases h
            exact .inl ⟨value :: values, .cons hresolved hsettled hoperands, rfl⟩
          · cases h
            exact .inr ⟨reason, .later hresolved hsettled hfirst, rfl⟩
        · cases h
    · cases h

end Operands

/-! ### Chains -/

/-- Applies an operator where a failure and nothing both give undefined. -/
def tolerant (apply : Value → Operator → Value → Run (Outcome Value)) (left : Value)
    (operator : Operator) (right : Value) : Run Value := do
  match ← apply left operator right with
  | .success value => return value
  | _ => return .undefined

open Reduction

section Chains

variable {perform : Evaluator} {context : Context} {apply : Value → Operator → Value → Run Value}
  {start : Value} {operations : List (Operator × Value)} {state final : State}
  {outcome : Outcome Value}

/-- What a chain does once its operands are resolved. -/
def finish (apply : Value → Operator → Value → Run Value) (start : Value)
    (operations : List (Operator × Value)) : Run (Outcome Value) := do
  let (result, _) ← reduce apply start operations
  return .success result

/-- A chain ends with the first failure of its operands, or else is reduced after all of them were
resolved. -/
theorem evaluateChain_eq_some_iff :
    evaluateChain perform apply context start operations state = (some outcome, final) ↔
      (∃ reason, FirstFailure perform context (start :: operations.map Prod.snd) state reason
        final ∧ outcome = .failure reason) ∨
      ∃ first values reached,
        Operands perform context (start :: operations.map Prod.snd) state (first :: values)
          reached ∧
        finish apply first ((operations.map Prod.fst).zip values) reached =
          (some outcome, final) := by
  constructor
  · intro h
    rw [evaluateChain, Run.bind_apply] at h
    split at h
    · next resolved middle hstart =>
      cases hsettled : resolved.settle with
      | error reason =>
        rw [Outcome.settle_eq_error_iff] at hsettled
        subst hsettled
        cases h
        exact .inl ⟨reason, .here _ hstart, rfl⟩
      | ok first =>
        simp only [hsettled] at h
        rw [Run.bind_apply] at h
        split at h
        · next result reached heach =>
          rcases operands_or_firstFailure heach with
            ⟨values, hoperands, rfl⟩ | ⟨reason, hfirst, rfl⟩
          · exact .inr ⟨first, values, reached, .cons hstart hsettled hoperands, h⟩
          · cases h
            exact .inl ⟨reason, .later hstart hsettled hfirst, rfl⟩
        · cases h
    · cases h
  · rintro (⟨reason, hfirst, rfl⟩ | ⟨first, values, reached, hoperands, hrun⟩)
    · cases hfirst with
      | here _ failed =>
        rw [evaluateChain, Run.bind_apply_of_some failed]
        rfl
      | later resolved settled rest =>
        rw [evaluateChain, Run.bind_apply_of_some resolved]
        simp only [settled]
        rw [Run.bind_apply_of_some (rest.resolveEach_eq rfl)]
        rfl
    · cases hoperands with
      | cons resolved settled rest =>
        rw [evaluateChain, Run.bind_apply_of_some resolved]
        simp only [settled]
        rw [Run.bind_apply_of_some (rest.resolveEach_eq rfl)]
        exact hrun

/-- Reducing a chain in a state takes all turns and leaves no operator. -/
theorem finish_eq_some_iff :
    finish apply start operations state = (some outcome, final) ↔
      ∃ result, applyInOrder apply (turns (operations.map Prod.fst)) start (arrange operations)
        state = (some (result, []), final) ∧ outcome = .success result := by
  rw [finish, reduce_eq_applyInOrder, bind_map_left, Run.bind_apply]
  constructor
  · intro h
    split at h
    · next reached middle hrun =>
      cases h
      refine ⟨reached.1, ?_, rfl⟩
      rw [applyInOrder_turns, map_eq_pure_bind, Run.bind_apply_of_some hrun]
      rfl
    · cases h
  · rintro ⟨result, hrun, rfl⟩
    rw [hrun]
    rfl

end Chains

/-- A chain takes its operands from left to right, and then its operators in their turns.

Every operator has one turn, and turns go by tier and then from left to right.  A run of a chain
that returns is of one of two kinds.  Either an operand fails, and the first failure is returned as
it is, in the state that this operand left.  Or all operands come to values, all turns are taken
from there on, with undefined as the result of an application that fails or finds nothing, and the
chain succeeds with what is left.  So it never gives nothing, and it fails only where an operand
does.  A log of the applications shows the operators of the chain, stably sorted by tier. -/
theorem evaluateChain_eq_some_iff_turns (perform : Evaluator)
    (apply : Value → Operator → Value → Run (Outcome Value)) (context : Context) (start : Value)
    (operations : List (Operator × Value)) (state final : State) (outcome : Outcome Value) :
    let operators := operations.map Prod.fst
    let operands := start :: operations.map Prod.snd
    (turns operators).Perm operators.zipIdx ∧ (turns operators).Pairwise Precedes ∧
      (∀ first resolved log, (reduce (logged (tolerant apply)) first resolved).run log =
        (fun reached => (reached, log ++ (resolved.map Prod.fst).mergeSort tierLE)) <$>
          reduce (tolerant apply) first resolved) ∧
      evaluateStep perform context (.expression start operations) =
        evaluateChain perform (tolerant (fun left operator right =>
          applyOperator perform context left operator.symbol right)) context start operations ∧
      (evaluateChain perform (tolerant apply) context start operations state =
          (some outcome, final) ↔
        (∃ reason, FirstFailure perform context operands state reason final ∧
          outcome = .failure reason) ∨
        ∃ first values reached result,
          Operands perform context operands state (first :: values) reached ∧
          applyInOrder (tolerant apply) (turns operators) first (arrange (operators.zip values))
            reached = (some (result, []), final) ∧
          outcome = .success result) := by
  intro operators operands
  refine ⟨turns_perm operators, pairwise_turns operators, run_reduce_logged (tolerant apply), rfl,
    ?_⟩
  rw [evaluateChain_eq_some_iff]
  refine or_congr_right (exists_congr fun first => exists_congr fun values =>
    exists_congr fun reached => ?_)
  rw [finish_eq_some_iff, ← exists_and_left]
  refine exists_congr fun result => and_congr_right fun hoperands => ?_
  have hlength : values.length = operators.length := by
    simpa [operators] using hoperands.length_eq
  rw [List.map_fst_zip (Nat.le_of_eq hlength.symm)]

end GuardedScript

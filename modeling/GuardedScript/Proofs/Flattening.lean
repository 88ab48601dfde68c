import GuardedScript.Policy

/-!
# Compound policies inside compound policies

A compound policy without a starting opinion and without a finisher says no more than its children
say one after the other.  As a child of another compound policy it may therefore be replaced by its
own children: the two policies give the same answers, after asking the same simple policies in the
same order.  They also derive alike.  Either both derivations fail for the same reason, or the
derived policies are again one with a compound child and one with that child's children in its
place, so that no chain of nested calls can tell them apart (`Policy.Flattens.afterCalls`).

The top statement is `Policy.flattened_indistinguishable`.
-/

set_option autoImplicit false

namespace GuardedScript.Policy

section Children

variable (site : Site) (check : Check) (function : Function)

/-! ### Lists of children -/

/-- An opinion that is held is the first one. -/
theorem firstOpinion_of_held {held : Decision} (h : held ≠ .empty) (policies : List Policy) :
    firstOpinion site check held policies = held := by
  cases policies with
  | nil => rfl
  | cons policy policies =>
    cases held with
    | empty => exact absurd rfl h
    | success grant => rfl
    | failure reason => rfl

/-- When an opinion is held nobody else is asked. -/
theorem consultedAmong_of_held {held : Decision} (h : held ≠ .empty) (policies : List Policy) :
    consultedAmong site check held policies = [] := by
  cases policies with
  | nil => rfl
  | cons policy policies =>
    cases held with
    | empty => exact absurd rfl h
    | success grant => rfl
    | failure reason => rfl

/-- The first opinion of two lists is that of the second one after that of the first. -/
theorem firstOpinion_append (held : Decision) (xs ys : List Policy) :
    firstOpinion site check held (xs ++ ys) =
      firstOpinion site check (firstOpinion site check held xs) ys := by
  induction xs generalizing held with
  | nil => rfl
  | cons policy xs ih =>
    by_cases hheld : held = .empty
    · subst hheld
      exact ih _
    · simp only [firstOpinion_of_held site check hheld]

/-- The policies of a second list are asked after those of the first one have no opinion. -/
theorem consultedAmong_append (held : Decision) (xs ys : List Policy) :
    consultedAmong site check held (xs ++ ys) =
      consultedAmong site check held xs ++
        consultedAmong site check (firstOpinion site check held xs) ys := by
  induction xs generalizing held with
  | nil => rfl
  | cons policy xs ih =>
    by_cases hheld : held = .empty
    · subst hheld
      simp only [List.cons_append, consultedAmong, firstOpinion, ih, List.append_assoc]
    · simp only [consultedAmong_of_held site check hheld, firstOpinion_of_held site check hheld,
        List.append_nil]

/-- Policies derive one after the other, and the first failure is that of all. -/
theorem deriveAll_append (xs ys : List Policy) :
    deriveAll site function (xs ++ ys) =
      (deriveAll site function xs).bind (fun derived =>
        (deriveAll site function ys).map (derived ++ ·)) := by
  induction xs with
  | nil =>
    cases hys : deriveAll site function ys <;> simp [deriveAll, hys, Except.bind, Except.map]
  | cons policy xs ih =>
    simp only [List.cons_append, deriveAll, ih]
    cases derive site function policy with
    | failure reason => rfl
    | success derived =>
      cases deriveAll site function xs with
      | error reason => rfl
      | ok rest => cases deriveAll site function ys <;> rfl
    | empty =>
      cases deriveAll site function xs with
      | error reason => rfl
      | ok rest => cases deriveAll site function ys <;> rfl

/-- The policies of a second list are asked unless one of the first has failed. -/
theorem deriversAmong_append (xs ys : List Policy) :
    deriversAmong site function (xs ++ ys) =
      deriversAmong site function xs ++
        match deriveAll site function xs with
        | .error _ => []
        | .ok _ => deriversAmong site function ys := by
  induction xs with
  | nil => rfl
  | cons policy xs ih =>
    simp only [List.cons_append, deriversAmong, deriveAll]
    cases derive site function policy with
    | failure reason => simp
    | success derived =>
      cases hxs : deriveAll site function xs <;> simp [ih, hxs]
    | empty =>
      cases hxs : deriveAll site function xs <;> simp [ih, hxs]

/-! ### A child that is itself compound -/

/-- The compound of some policies that has no opinion of its own. -/
def sequence (policies : List Policy) : Policy :=
  compound .empty policies .empty

variable (policies : List Policy)

/-- A sequence answers with the first opinion of its policies. -/
theorem answer_sequence :
    (sequence policies).answer site check = firstOpinion site check .empty policies := by
  simp only [sequence, answer]
  cases firstOpinion site check .empty policies <;> rfl

/-- A sequence among policies has the first opinion of its policies. -/
theorem firstOpinion_sequence (held : Decision) :
    firstOpinion site check held [sequence policies] = firstOpinion site check held policies := by
  by_cases hheld : held = .empty
  · subst hheld
    exact answer_sequence site check policies
  · simp only [firstOpinion_of_held site check hheld]

/-- Through a sequence its policies are asked. -/
theorem consultedAmong_sequence (held : Decision) :
    consultedAmong site check held [sequence policies] =
      consultedAmong site check held policies := by
  by_cases hheld : held = .empty
  · subst hheld
    simp only [sequence, consultedAmong, consulted, List.append_nil]
  · simp only [consultedAmong_of_held site check hheld]

/-- A sequence derives the sequence of what its policies derive. -/
theorem derive_sequence :
    (sequence policies).derive site function =
      .ofExcept ((deriveAll site function policies).map sequence) := by
  simp only [sequence, derive]
  cases deriveAll site function policies <;> rfl

/-- A sequence alone derives what its policies derive together. -/
theorem deriveAll_sequence :
    deriveAll site function [sequence policies] =
      (deriveAll site function policies).map (fun derived => [sequence derived]) := by
  simp only [deriveAll, derive_sequence]
  cases deriveAll site function policies <;> rfl

/-- Through a sequence its policies are asked for what they derive. -/
theorem deriversAmong_sequence :
    deriversAmong site function [sequence policies] = deriversAmong site function policies := by
  simp only [deriversAmong, sequence, derivers]
  split <;> simp

end Children

/-! ### Flattening -/

/-- Two compound policies with the same starting opinion and finisher, where some children of the
second are together one child of the first. -/
inductive Flattens : Policy → Policy → Prop
  | intro (starting : Decision) (xs ys zs : List Policy) (finisher : Decision) :
      Flattens (compound starting (xs ++ [sequence ys] ++ zs) finisher)
        (compound starting (xs ++ ys ++ zs) finisher)

/-- Two policies answer a check alike, after asking the same simple policies. -/
def Agree (policy other : Policy) : Prop :=
  ∀ site check, policy.answer site check = other.answer site check ∧
    policy.consulted site check = other.consulted site check

/-- A policy and its flattening agree. -/
theorem Flattens.agree {policy other : Policy} (h : Flattens policy other) :
    Agree policy other := by
  obtain ⟨starting, xs, ys, zs, finisher⟩ := h
  intro site check
  constructor
  · simp only [answer, firstOpinion_append, firstOpinion_sequence]
  · simp only [consulted, consultedAmong_append, firstOpinion_append, firstOpinion_sequence,
      consultedAmong_sequence]

/-- Through a policy and its flattening the same simple policies are asked. -/
theorem Flattens.derivers_eq {policy other : Policy} (h : Flattens policy other) (site : Site)
    (function : Function) : policy.derivers site function = other.derivers site function := by
  obtain ⟨starting, xs, ys, zs, finisher⟩ := h
  simp only [derivers, deriversAmong_append, deriveAll_append, deriversAmong_sequence,
    deriveAll_sequence]
  cases deriveAll site function xs with
  | error reason => rfl
  | ok derived => cases deriveAll site function ys <;> rfl

/-- Both derivations fail for the same reason, or both succeed and their policies are related. -/
inductive DeriveAlike (R : Policy → Policy → Prop) : Outcome Policy → Outcome Policy → Prop
  | failure (reason : Failure) : DeriveAlike R (.failure reason) (.failure reason)
  | success {policy other : Policy} (related : R policy other) :
      DeriveAlike R (.success policy) (.success other)

/-- Policies that are derived alike are so by a weaker relation. -/
theorem DeriveAlike.mono {R S : Policy → Policy → Prop} {left right : Outcome Policy}
    (h : DeriveAlike R left right) (hsub : ∀ {policy other}, R policy other → S policy other) :
    DeriveAlike S left right := by
  cases h with
  | failure reason => exact .failure reason
  | success related => exact .success (hsub related)

/-- The derived policies have the derived children, those of the compound child still together. -/
theorem Flattens.derive {policy other : Policy} (h : Flattens policy other) (site : Site)
    (function : Function) :
    DeriveAlike Flattens (policy.derive site function) (other.derive site function) := by
  obtain ⟨starting, xs, ys, zs, finisher⟩ := h
  simp only [Policy.derive, deriveAll_append, deriveAll_sequence]
  cases deriveAll site function xs with
  | error reason => exact .failure reason
  | ok xs =>
    cases deriveAll site function ys with
    | error reason => exact .failure reason
    | ok ys =>
      cases deriveAll site function zs with
      | error reason => exact .failure reason
      | ok zs => exact .success (.intro starting xs ys zs finisher)

/-! ### Nested calls -/

/-- The policy of the last of some nested calls, each made where a site says.  A call for which no
policy is derived runs under that of its caller. -/
def afterCalls (policy : Policy) : List (Site × Function) → Outcome Policy
  | [] => .success policy
  | (site, function) :: calls =>
    match policy.derive site function with
    | .success derived => derived.afterCalls calls
    | .empty => policy.afterCalls calls
    | .failure reason => .failure reason

/-- Flattening goes unnoticed through all nested calls. -/
theorem Flattens.afterCalls {policy other : Policy} (h : Flattens policy other)
    (calls : List (Site × Function)) :
    DeriveAlike Flattens (policy.afterCalls calls) (other.afterCalls calls) := by
  induction calls generalizing policy other with
  | nil => exact .success h
  | cons call calls ih =>
    obtain ⟨site, function⟩ := call
    have hderive := h.derive site function
    simp only [Policy.afterCalls]
    -- compound policies always derive something or fail, so both go on in the same way
    generalize policy.derive site function = left at hderive ⊢
    generalize other.derive site function = right at hderive ⊢
    cases hderive with
    | failure reason => exact .failure reason
    | success related => exact ih related

/-! ### Policies that derive nothing -/

mutual

/-- The simple policies that a policy is made of. -/
def leaves : Policy → List Policy
  | compound _ children _ => leavesAmong children
  | policy => [policy]
termination_by structural policy => policy

/-- The simple policies that some policies are made of. -/
def leavesAmong : List Policy → List Policy
  | [] => []
  | policy :: policies => leaves policy ++ leavesAmong policies
termination_by structural policies => policies

end

mutual

/-- Without a leaf that derives, a policy derives nothing, or the same policy once more. -/
theorem derive_of_leaves {site : Site} {function : Function} : (policy : Policy) →
    (∀ leaf ∈ policy.leaves, leaf.derive site function = .empty) →
    policy.derive site function = .empty ∨ policy.derive site function = .success policy
  | compound starting children finisher, h => by
    have hchildren := deriveAll_of_leaves children h
    refine .inr ?_
    simp only [derive, hchildren]
  | permissive, h => .inl (h _ (List.mem_singleton_self _))
  | limiter _, h => .inl (h _ (List.mem_singleton_self _))
  | budget _, h => .inl (h _ (List.mem_singleton_self _))
  | denyList _, h => .inl (h _ (List.mem_singleton_self _))
  | custom _ _ _, h => .inl (h _ (List.mem_singleton_self _))
termination_by structural policy => policy

/-- Policies whose leaves derive nothing stay as they are. -/
theorem deriveAll_of_leaves {site : Site} {function : Function} : (policies : List Policy) →
    (∀ leaf ∈ leavesAmong policies, leaf.derive site function = .empty) →
    deriveAll site function policies = .ok policies
  | [], _ => rfl
  | policy :: policies, h => by
    obtain ⟨hfirst, hrest⟩ := List.forall_mem_append.mp h
    have hpolicy := derive_of_leaves policy hfirst
    have hpolicies := deriveAll_of_leaves policies hrest
    simp only [deriveAll, hpolicies]
    rcases hpolicy with hempty | hsame
    · rw [hempty]
    · rw [hsame]
termination_by structural policies => policies

end

/-- Compound policies flatten, and stay flat.  A compound child without an opinion of its own and
its children in its place make no difference: all checks are answered alike, after the same simple
policies were asked in the same order; for every call the same policies are asked to derive, and
both derivations fail for the same reason or are again related in this way; so the two agree after
any nested calls.  A compound policy none of whose leaves derives anything for a call derives a
policy that agrees with it. -/
theorem flattened_indistinguishable (starting finisher : Decision) (xs ys zs : List Policy) :
    let nested := compound starting (xs ++ [compound .empty ys .empty] ++ zs) finisher
    let flat := compound starting (xs ++ ys ++ zs) finisher
    Agree nested flat ∧
      (∀ site function, nested.derivers site function = flat.derivers site function ∧
        DeriveAlike Flattens (nested.derive site function) (flat.derive site function)) ∧
      (∀ calls, DeriveAlike (fun policy other => Flattens policy other ∧ Agree policy other)
        (nested.afterCalls calls) (flat.afterCalls calls)) ∧
      ∀ site function children,
        (∀ leaf ∈ leavesAmong children, leaf.derive site function = .empty) →
        ∃ derived, (compound starting children finisher).derive site function = .success derived ∧
          Agree derived (compound starting children finisher) := by
  intro nested flat
  have hflattens : Flattens nested flat := .intro starting xs ys zs finisher
  refine ⟨hflattens.agree, ?_, ?_, ?_⟩
  · intro site function
    exact ⟨hflattens.derivers_eq site function, hflattens.derive site function⟩
  · intro calls
    have hcalls := hflattens.afterCalls calls
    exact hcalls.mono (fun related => ⟨related, related.agree⟩)
  · intro site function children h
    have hchildren := deriveAll_of_leaves children h
    refine ⟨compound starting children finisher, ?_, fun _ _ => ⟨rfl, rfl⟩⟩
    simp only [Policy.derive, hchildren]

/-- A budget counts down wherever it stands, and a deny list beside limits stays as it is. -/
theorem flattened_indistinguishable_budget :
    let nested := compound .empty
      ([denying ["f"]] ++ [compound .empty [budget 2, permissive] .empty] ++ []) (.success ())
    let flat := compound .empty ([denying ["f"]] ++ [budget 2, permissive] ++ []) (.success ())
    let limited := [denying ["f"], compound .empty [limiter ⟨some 4, none, false⟩] .empty]
    Agree nested flat ∧
      (∀ site function, nested.derivers site function = flat.derivers site function ∧
        DeriveAlike Flattens (nested.derive site function) (flat.derive site function)) ∧
      (∀ site function, flat.derive site function =
        .success (compound .empty [denying ["f"], budget 1, permissive] (.success ()))) ∧
      (∀ calls, DeriveAlike (fun policy other => Flattens policy other ∧ Agree policy other)
        (nested.afterCalls calls) (flat.afterCalls calls)) ∧
      ∀ site function, (∀ leaf ∈ leavesAmong limited, leaf.derive site function = .empty) ∧
        ∃ derived, (compound .empty limited (.success ())).derive site function =
          .success derived ∧ Agree derived (compound .empty limited (.success ())) := by
  intro nested flat limited
  obtain ⟨hagree, hderive, hcalls, hleaves⟩ :=
    flattened_indistinguishable .empty (.success ()) [denying ["f"]] [budget 2, permissive] []
  refine ⟨hagree, hderive, fun _ _ => rfl, hcalls, fun site function => ?_⟩
  have hsilent : ∀ leaf ∈ leavesAmong limited, leaf.derive site function = .empty := by
    simp [limited, leavesAmong, leaves, denying, Policy.derive]
  exact ⟨hsilent, hleaves site function limited hsilent⟩

end GuardedScript.Policy

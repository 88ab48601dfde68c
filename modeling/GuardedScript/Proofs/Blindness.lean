import GuardedScript.Proofs.Admission
import GuardedScript.Proofs.Effects

/-!
# What policies do not look at

A policy may look at the variables and functions of the asking context and of those around it.
Where two states are compared, it counts whether the policies see the difference.  `Policy.Ignores`
says that a policy answers all questions alike in related states, and that so do the policies that
it derives.  The policies that are built in look at no state at all.  A context ignores a difference
if its policy and those of the contexts around it do; scopes and calls take this over.
-/

set_option autoImplicit false

namespace GuardedScript

/-- A policy answers and derives the same in related states, and derives only such policies. -/
inductive Policy.Ignores (R : State → State → Prop) : Policy → Prop
  | permissive : Ignores R .permissive
  | limiter (limits : Limits) : Ignores R (.limiter limits)
  | budget (remaining : Nat) : Ignores R (.budget remaining)
  | denyList (keys : List String) : Ignores R (.denyList keys)
  | compound (starting finisher : Decision) {children : List Policy}
      (all : ∀ child ∈ children, Ignores R child) :
      Ignores R (.compound starting children finisher)
  | custom (label : String) {answer : Site → Check → Decision}
      {derive : Site → Function → Outcome Policy}
      (answers : ∀ {left right : State} (context : Context) (check : Check), R left right →
        answer (context.site left.store) check = answer (context.site right.store) check)
      (derives : ∀ {left right : State} (context : Context) (function : Function), R left right →
        derive (context.site left.store) function = derive (context.site right.store) function)
      (derived : ∀ site function policy, derive site function = .success policy →
        Ignores R policy) :
      Ignores R (.custom label answer derive)

namespace Policy.Ignores

variable {R : State → State → Prop} {policy : Policy} {left right : State}

/-- The first opinion among policies that answer alike is the same. -/
theorem firstOpinion_eq {site other : Site} {check : Check} {children : List Policy}
    (h : ∀ child ∈ children, child.answer site check = child.answer other check)
    (held : Decision) :
    Policy.firstOpinion site check held children =
      Policy.firstOpinion other check held children := by
  induction children generalizing held with
  | nil => rfl
  | cons child children ih =>
    obtain ⟨hfirst, hrest⟩ := List.forall_mem_cons.mp h
    cases held with
    | empty =>
      simp only [Policy.firstOpinion, hfirst]
      exact ih hrest _
    | success _ => rfl
    | failure reason => rfl

/-- Policies that derive alike derive the same policies together. -/
theorem deriveAll_eq {site other : Site} {function : Function} {children : List Policy}
    (h : ∀ child ∈ children, child.derive site function = child.derive other function) :
    Policy.deriveAll site function children = Policy.deriveAll other function children := by
  induction children with
  | nil => rfl
  | cons child children ih =>
    obtain ⟨hfirst, hrest⟩ := List.forall_mem_cons.mp h
    simp only [Policy.deriveAll, hfirst, ih hrest]

/-- A policy answers alike in states between which it ignores the difference. -/
theorem answer_eq (h : policy.Ignores R) (related : R left right) (context : Context)
    (check : Check) :
    policy.answer (context.site left.store) check =
      policy.answer (context.site right.store) check := by
  induction h with
  | permissive => rfl
  | limiter limits =>
    cases check with
    | runFunction function => simp only [Policy.answer, Policy.limitDecision, Context.depth_site,
        Context.active_site]
    | _ => rfl
  | budget remaining => cases check <;> rfl
  | denyList keys => cases check <;> rfl
  | compound starting finisher _ ih => simp only [Policy.answer, firstOpinion_eq ih]
  | custom label answers _ _ _ => exact answers context check related

/-- A policy derives alike in states between which it ignores the difference. -/
theorem derive_eq (h : policy.Ignores R) (related : R left right) (context : Context)
    (function : Function) :
    policy.derive (context.site left.store) function =
      policy.derive (context.site right.store) function := by
  induction h with
  | permissive => rfl
  | limiter limits => rfl
  | budget remaining => rfl
  | denyList keys => rfl
  | compound starting finisher _ ih => simp only [Policy.derive, deriveAll_eq ih]
  | custom label _ derives _ _ => exact derives context function related

/-- Policies that derive only such policies, or stay as they are, derive only such policies. -/
theorem of_deriveAll {site : Site} {function : Function} {children derived : List Policy}
    (all : ∀ child ∈ children, child.Ignores R)
    (each : ∀ child ∈ children, ∀ policy, child.derive site function = .success policy →
      policy.Ignores R)
    (h : Policy.deriveAll site function children = .ok derived) :
    ∀ policy ∈ derived, policy.Ignores R := by
  induction children generalizing derived with
  | nil =>
    cases h
    exact fun _ hmem => absurd hmem List.not_mem_nil
  | cons child children ih =>
    obtain ⟨hchild, hothers⟩ := List.forall_mem_cons.mp all
    obtain ⟨hfirst, heach⟩ := List.forall_mem_cons.mp each
    simp only [Policy.deriveAll] at h
    cases hderive : child.derive site function with
    | failure reason =>
      rw [hderive] at h
      cases h
    | success policy =>
      simp only [hderive] at h
      split at h
      · next rest hrest =>
        cases h
        exact List.forall_mem_cons.mpr ⟨hfirst policy hderive, ih hothers heach hrest⟩
      · cases h
    | empty =>
      simp only [hderive] at h
      split at h
      · next rest hrest =>
        cases h
        exact List.forall_mem_cons.mpr ⟨hchild, ih hothers heach hrest⟩
      · cases h

/-- A derived policy ignores what the policy does that it is derived from. -/
theorem derived (h : policy.Ignores R) {site : Site} {function : Function} {next : Policy}
    (heq : policy.derive site function = .success next) : next.Ignores R := by
  induction h generalizing next with
  | permissive => cases heq
  | limiter limits => cases heq
  | budget remaining =>
    cases heq
    exact .budget _
  | denyList keys => cases heq
  | compound starting finisher all ih =>
    simp only [Policy.derive] at heq
    split at heq
    · next derived hall =>
      cases heq
      exact .compound starting finisher
        (of_deriveAll all (fun child hchild _ hchildEq => ih child hchild hchildEq) hall)
    · cases heq
  | custom label _ _ derived _ => exact derived site function next heq

end Policy.Ignores

section Store

variable {R : State → State → Prop}

mutual

/-- Policies see only the store, and ignore all else. -/
theorem Policy.ignores_of_store_eq (h : ∀ left right, R left right → left.store = right.store)
    (policy : Policy) : policy.Ignores R :=
  match policy with
  | .permissive => .permissive
  | .limiter limits => .limiter limits
  | .budget remaining => .budget remaining
  | .denyList keys => .denyList keys
  | .compound starting children finisher =>
    .compound starting finisher (ignores_of_mem h children)
  | .custom label answer derive =>
    .custom label (fun context check related => by rw [h _ _ related])
      (fun context function related => by rw [h _ _ related])
      (fun site function => ignores_of_success h (derive site function))
termination_by structural policy

/-- All children of a compound policy see only the store. -/
theorem ignores_of_mem (h : ∀ left right, R left right → left.store = right.store)
    (children : List Policy) : ∀ child ∈ children, child.Ignores R :=
  match children with
  | [] => fun _ hmem => absurd hmem List.not_mem_nil
  | child :: children =>
    List.forall_mem_cons.mpr ⟨child.ignores_of_store_eq h, ignores_of_mem h children⟩
termination_by structural children

/-- A policy that was derived sees only the store. -/
theorem ignores_of_success (h : ∀ left right, R left right → left.store = right.store)
    (derived : Outcome Policy) : ∀ policy, derived = .success policy → policy.Ignores R :=
  match derived with
  | .success derived => fun _ heq => Outcome.success.inj heq ▸ derived.ignores_of_store_eq h
  | .empty => fun _ heq => nomatch heq
  | .failure _ => fun _ heq => nomatch heq
termination_by structural derived

end

end Store

/-- The policies of a context and of those around it ignore the difference between related
states. -/
def Context.Ignores (R : State → State → Prop) (context : Context) : Prop :=
  ∀ scope ∈ context.ancestry, scope.policy.Ignores R

/-- No context tells states with the same store apart. -/
theorem Context.ignores_of_store_eq {R : State → State → Prop} (context : Context)
    (h : ∀ left right, R left right → left.store = right.store) : context.Ignores R :=
  fun scope _ => scope.policy.ignores_of_store_eq h

namespace Context.Ignores

variable {R : State → State → Prop} {context : Context} {left right : State}

/-- The policy of the context itself ignores the difference. -/
theorem policy (h : context.Ignores R) : context.policy.Ignores R :=
  h context context.mem_ancestry_self

/-- The contexts around one that ignores a difference ignore it too. -/
theorem of_mem (h : context.Ignores R) {scope : Context} (hscope : scope ∈ context.ancestry) :
    scope.Ignores R :=
  fun outer houter => h outer (mem_ancestry_trans hscope houter)

/-- The parent of a context that ignores a difference ignores it too. -/
theorem parent {frame : Frame} {parent : Context} (h : (nested frame parent).Ignores R) :
    parent.Ignores R :=
  fun outer houter => h outer (mem_ancestry_nested houter)

/-- Decisions in related states are the same. -/
theorem decision_eq (h : context.Ignores R) (related : R left right) (check : Check) :
    context.decision left.store check = context.decision right.store check :=
  h.policy.answer_eq related context check

/-- Permissions in related states are the same. -/
theorem permits (h : context.Ignores R) (related : R left right) {check : Check}
    (permits : context.Permits left.store check) : context.Permits right.store check := by
  intro reason heq
  rw [← h.decision_eq related] at heq
  exact permits reason heq

/-- Derivations in related states are the same. -/
theorem derivation_eq (h : context.Ignores R) (related : R left right) (function : Function) :
    context.derivation left.store function = context.derivation right.store function :=
  h.policy.derive_eq related context function

/-- A scope ignores what the context around it does. -/
theorem scopeAt (h : context.Ignores R) (id : Nat) (marker : String) :
    (context.scopeAt id marker).Ignores R :=
  List.forall_mem_cons.mpr ⟨h.policy, h⟩

/-- A call ignores what its caller does. -/
theorem calleeAt (h : context.Ignores R) (store : Store) (function : Function) :
    (context.calleeAt store function).Ignores R := by
  refine List.forall_mem_cons.mpr ⟨?_, h⟩
  show Policy.Ignores R ((context.derivation store function).success?.getD context.policy)
  cases hderived : context.derivation store function with
  | success policy => exact h.policy.derived hderived
  | empty => exact h.policy
  | failure reason => exact h.policy

/-- A call has the same context in related states of one size. -/
theorem calleeAt_eq (h : context.Ignores R) (related : R left right)
    (size : left.store.size = right.store.size) (function : Function) :
    context.calleeAt left.store function = context.calleeAt right.store function := by
  unfold Context.calleeAt
  rw [h.derivation_eq related, size]

end Context.Ignores

/-- The policies of a context and of those around it look at nothing that is stored. -/
abbrev Context.Blind (context : Context) : Prop :=
  context.Ignores (fun _ _ => True)

end GuardedScript

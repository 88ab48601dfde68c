import GuardedScript.Proofs.Delegation
import GuardedScript.Proofs.Landing

/-!
# Rejections keep their provenance

A global write or registration that fails was refused in several contexts, one after the other from
the outside inward.  Each refusal may have causes of its own.  The failure that is returned in the
end tells them all, the innermost first: for each context that the operation failed there, and then
the refusal with all its causes.  A registration that was not let go further tells that last
(`Context.rejection_provenance`).

On the way inward each context hangs what the parent reported behind the last cause of its own
refusal.  By induction along the chain of contexts nothing is lost, repeated or put elsewhere.
-/

set_option autoImplicit false

namespace GuardedScript

namespace Context

section Writes

variable {key : String} {value : Value} {store : Store} {context : Context} {denials : List Failure}

/-- The policy of the context refuses a global write that has come to it, for a reason. -/
def DeclinesFor (key : String) (value : Value) (store : Store) (context : Context)
    (denial : Failure) : Prop :=
  context.decision store (context.question key value store) = .failure denial

/-- What a refused write comes to has the refusal as its cause. -/
theorem verdict_of_declinesFor {denial : Failure} (h : context.DeclinesFor key value store denial) :
    context.verdict key value store (context.priorAttempt key value store) =
      .failure ((Failure.failedToSetVariable key).causedBy
        (denial.after (context.priorAttempt key value store))) := by
  rw [DeclinesFor, question] at h
  rw [verdict, h]

/-- What a global write comes to in a context, if this one and all around it decline. -/
theorem chain_verdict
    (declined : List.Forall₂ (fun scope denial => scope.DeclinesFor key value store denial)
      context.ancestry denials) :
    ∃ reason,
      context.verdict key value store (context.priorAttempt key value store) = .failure reason ∧
      reason.chain = (Failure.failedToSetVariable key).provenance denials := by
  induction context generalizing denials with
  | root frame =>
    obtain ⟨denial, rest, hdeclines, hnil, rfl⟩ := List.forall₂_cons_left_iff.mp declined
    obtain rfl := List.forall₂_nil_left_iff.mp hnil
    refine ⟨_, verdict_of_declinesFor hdeclines, ?_⟩
    rw [Failure.chain_causedBy_of_uncaused rfl]
    simp [priorAttempt, Failure.after]
  | nested frame parent ih =>
    obtain ⟨denial, denials, hdeclines, hrest, rfl⟩ := List.forall₂_cons_left_iff.mp declined
    obtain ⟨previous, hprevious, hchain⟩ := ih hrest
    have hprior : (nested frame parent).priorAttempt key value store =
        some (.failure previous) := by
      rw [priorAttempt, hprevious]
    refine ⟨_, verdict_of_declinesFor hdeclines, ?_⟩
    rw [Failure.chain_causedBy_of_uncaused rfl, hprior, Failure.provenance_cons, ← hchain]
    simp [Failure.after]

/-- Contexts that each have a reason to decline do decline. -/
theorem declines_of_forall₂
    (declined : List.Forall₂ (fun scope denial => scope.DeclinesFor key value store denial)
      context.ancestry denials) :
    ∀ scope ∈ context.ancestry, scope.Declines key value store := by
  intro scope hscope
  obtain ⟨index, hindex, rfl⟩ := List.mem_iff_getElem.mp hscope
  have hlength : index < denials.length := declined.length_eq ▸ hindex
  exact ⟨_, declined.get hindex hlength⟩

end Writes

end Context

/-- Rejections keep their provenance.  If every context declines a global write, the reports of its
failure are for each context, the innermost first, that the variable was not set, and then the whole
chain of the refusal there.  If every context on the way of a global registration refuses it, the
reports are for each of them that the function was not registered, and then the whole chain of the
refusal there; and if the way ended with a refusal to turn to the parent, that access was denied,
and the whole chain of that refusal.  The refusals are those of the state in which the operation
begins.
-/
theorem Context.rejection_provenance (context : Context) (state : State) :
    (∀ key value denials,
      List.Forall₂ (fun scope denial => scope.DeclinesFor key value state.store denial)
        context.ancestry denials →
      ∃ reason, (context.set key true value state).1 = .failure reason ∧
        reason.chain = denials.flatMap (fun denial =>
          (Failure.failedToSetVariable key).chain ++ denial.chain)) ∧
    ∀ name function route stop denials,
      context.Route (Text.key name) function state.store route stop →
      List.Forall₂ (fun scope denial => scope.Denies (Text.key name) function state.store denial)
        route denials →
      ∃ reason, (context.register name function true state).1 = .failure reason ∧
        reason.chain = denials.flatMap (fun denial =>
            (Failure.failedToRegisterFunction (Text.key name)).chain ++ denial.chain) ++
          (stop.map (fun denial =>
            (Failure.accessDenied
              ("ask parent to register function '" ++ Text.key name ++ "'")).chain ++
              denial.chain)).getD [] := by
  refine ⟨?_, ?_⟩
  · intro key value denials declined
    obtain ⟨reason, hverdict, hchain⟩ := chain_verdict declined
    rw [set_of_declines (declines_of_forall₂ declined)]
    exact ⟨reason, hverdict, hchain⟩
  · intro name function route stop denials hroute denied
    obtain ⟨reason, hfailure, hchain, -⟩ := register_of_denies hroute denied rfl state rfl
    refine ⟨reason, hfailure, ?_⟩
    cases stop with
    | none => exact hchain
    | some denial => exact hchain

/-- A policy that refuses writes and registrations for a reason with a cause, and may also refuse to
turn to the parent. -/
def sternPolicy (label : String) (keeps : Bool) : Policy :=
  .custom label
    (fun _ check =>
      match check with
      | .setVariable _ _ _ _ | .registerFunction _ _ _ =>
        .failure ((Failure.accessDenied label).causedBy (.native "rule"))
      | .askParentToRegister _ _ => if keeps then .failure (.native "kept") else .empty
      | _ => .empty)
    (fun _ _ => .empty)

def sternRoot : Context :=
  .root ⟨0, .global, sternPolicy "a" false, {}⟩

def sternMiddle : Context :=
  .nested ⟨1, .global, sternPolicy "b" true, {}⟩ sternRoot

def sternScope : Context :=
  .nested ⟨2, .scope defaultMarker, sternPolicy "c" false, {}⟩ sternMiddle

/-- The write is refused three times.  The registration does not come to the root, and tells why
last. -/
theorem rejection_provenance_stern :
    let denial := fun label => (Failure.accessDenied label).causedBy (.native "rule")
    List.Forall₂ (fun scope denial => scope.DeclinesFor "k" (.int 1) {} denial) sternScope.ancestry
        [denial "c", denial "b", denial "a"] ∧
      sternScope.Route "f" (numbered 0) {} [sternScope, sternMiddle] (some (.native "kept")) ∧
      (∃ reason, (sternScope.set "k" true (.int 1) {}).1 = .failure reason ∧
        reason.chain.map Report.message =
          ["failed to set variable: k", "access denied: c", "rule",
            "failed to set variable: k", "access denied: b", "rule",
            "failed to set variable: k", "access denied: a", "rule"]) ∧
      ∃ reason, (sternScope.register " f" (numbered 0) true {}).1 = .failure reason ∧
        reason.chain.map Report.message =
          ["failed to register function: f", "access denied: c", "rule",
            "failed to register function: f", "access denied: b", "rule",
            "access denied: ask parent to register function 'f'", "kept"] := by
  intro denial
  have declined : List.Forall₂ (fun scope denial => scope.DeclinesFor "k" (.int 1) {} denial)
      sternScope.ancestry [denial "c", denial "b", denial "a"] :=
    .cons rfl (.cons rfl (.cons rfl .nil))
  have hkey : Text.key " f" = "f" := by decide +kernel
  have hroute : sternScope.Route "f" (numbered 0) {} [sternScope, sternMiddle]
      (some (.native "kept")) := by
    refine .outward (fun reason refused => ?_) (.kept rfl)
    cases refused
  have denied : List.Forall₂ (fun scope denial => scope.Denies "f" (numbered 0) {} denial)
      [sternScope, sternMiddle] [denial "c", denial "b"] :=
    .cons rfl (.cons rfl .nil)
  obtain ⟨hset, hregister⟩ := Context.rejection_provenance sternScope {}
  obtain ⟨reason, hfailure, hchain⟩ := hset "k" (.int 1) _ declined
  obtain ⟨other, hother, hotherChain⟩ := hregister " f" (numbered 0) _ _ _
    (hkey.symm ▸ hroute) (hkey.symm ▸ denied)
  refine ⟨declined, hroute, ⟨reason, hfailure, ?_⟩, ⟨other, hother, ?_⟩⟩
  · rw [hchain]
    decide +kernel
  · rw [hotherChain, hkey]
    decide +kernel

end GuardedScript

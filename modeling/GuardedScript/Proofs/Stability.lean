import GuardedScript.Proofs.Fixity

/-!
# When a value has to be evaluated

Whether a value has to be evaluated is said three times: by its evaluation kind, which for an array
is read off its classification, by a scan of the elements of an unsure array, and by what
evaluation does with it.  The three agree.  A value is fixed if and only if going from arrays to
their elements never leads to a lazy value or to a dynamic array, and these are the values that
need no evaluation and that evaluation gives back as they are.

So it makes no difference that `resolve` passes over the evaluation of fixed values.  Evaluation
never comes to nothing either, so it makes no difference what its callers would do in that case
(`Value.resolve_agrees_with_evaluate`).
-/

set_option autoImplicit false

namespace GuardedScript

/-! ### What a value is made of -/

namespace Value

/-- A value that is evaluated whatever its elements are: a lazy one, or a dynamic array. -/
def isDynamic : Value → Bool
  | array dynamic _ => dynamic
  | reference _ | property _ _ | call _ _ | memberCall _ _ _ | expression _ _ => true
  | _ => false

/-- An array has a value among its elements. -/
inductive HasElement : Value → Value → Prop
  | intro {dynamic : Bool} {items : List Value} {item : Value} (mem : item ∈ items) :
    HasElement (array dynamic items) item

/-- A value leads to another one by going from arrays to their elements, any number of times. -/
abbrev LeadsTo : Value → Value → Prop :=
  Relation.ReflTransGen HasElement

/-- All items of a list are fixed if each of them is. -/
theorem allFixed_iff_forall {items : List Value} :
    allFixed items = true ↔ ∀ item ∈ items, item.evaluationKind = .fixed := by
  induction items with
  | nil => simp [allFixed]
  | cons item items ih => simp [allFixed, ih]

/-- An array is fixed if it is not marked dynamic and all its items are fixed. -/
theorem evaluationKind_array_iff {dynamic : Bool} {items : List Value} :
    (array dynamic items).evaluationKind = .fixed ↔
      dynamic = false ∧ ∀ item ∈ items, item.evaluationKind = .fixed := by
  rw [← allFixed_iff_forall]
  cases dynamic <;> cases hall : allFixed items <;>
    simp [evaluationKind, Stability.classify, Stability.evaluationKind, hall]

/-- A value is fixed if it is not dynamic itself and its elements are fixed. -/
theorem evaluationKind_eq_fixed_iff_elements (value : Value) :
    value.evaluationKind = .fixed ↔
      value.isDynamic = false ∧ ∀ item, value.HasElement item → item.evaluationKind = .fixed := by
  cases value with
  | array dynamic items =>
    rw [evaluationKind_array_iff]
    refine and_congr_right (fun _ => ⟨?_, ?_⟩)
    · rintro hitems item ⟨hmem⟩
      exact hitems item hmem
    · exact fun hitems item hmem => hitems item (.intro hmem)
  | reference _ | property _ _ | call _ _ | memberCall _ _ _ | expression _ _ =>
    simp [evaluationKind, isDynamic]
  | int _ | double _ | char _ | string _ | boolean _ | null | undefined =>
    refine iff_of_true rfl ⟨rfl, ?_⟩
    rintro item ⟨⟩

/-- What a path in a fixed value leads to is fixed. -/
theorem LeadsTo.fixed {value part : Value} (path : value.LeadsTo part)
    (h : value.evaluationKind = .fixed) : part.evaluationKind = .fixed := by
  induction path with
  | refl => exact h
  | tail _ element ih => exact ((evaluationKind_eq_fixed_iff_elements _).mp ih).2 _ element

/-- A value without dynamic parts is fixed. -/
theorem evaluationKind_eq_fixed_of_leadsTo (value : Value)
    (h : ∀ part, value.LeadsTo part → part.isDynamic = false) :
    value.evaluationKind = .fixed := by
  rw [evaluationKind_eq_fixed_iff_elements]
  refine ⟨h value .refl, fun item element => ?_⟩
  exact evaluationKind_eq_fixed_of_leadsTo item (fun part path => h part (.head element path))
termination_by sizeOf value
decreasing_by
  obtain ⟨hmem⟩ := element
  have hlt := List.sizeOf_lt_of_mem hmem
  simp only [array.sizeOf_spec]
  omega

/-- The fixed values are those that lead to nothing dynamic. -/
theorem evaluationKind_eq_fixed_iff_leadsTo (value : Value) :
    value.evaluationKind = .fixed ↔ ∀ part, value.LeadsTo part → part.isDynamic = false := by
  refine ⟨fun h part path => ?_, evaluationKind_eq_fixed_of_leadsTo value⟩
  exact ((evaluationKind_eq_fixed_iff_elements part).mp (path.fixed h)).1

/-- An array that is not known to be fixed is found to need evaluation. -/
theorem needsEvaluation_of_unsure {dynamic : Bool} {items : List Value}
    (h : stability dynamic items = .unsure) : (array dynamic items).needsEvaluation = true := by
  have hkind : (array dynamic items).evaluationKind ≠ .fixed := by
    have hclassified : (array dynamic items).evaluationKind =
        (stability dynamic items).evaluationKind := rfl
    rw [hclassified, h]
    decide
  rw [Ne, evaluationKind_eq_fixed_iff, Bool.not_eq_false] at hkind
  exact hkind

end Value

/-! ### Evaluation of fixed values -/

section Fixed

variable {perform : Evaluator} {context : Context}

/-- Fixed elements are resolved to themselves. -/
theorem resolveEach_of_fixed {items : List Value}
    (h : ∀ item ∈ items, item.evaluationKind = .fixed) :
    resolveEach perform context id (fun _ value => value) items = pure (.ok items) := by
  induction items with
  | nil => rfl
  | cons item items ih =>
    obtain ⟨hfirst, hrest⟩ := List.forall_mem_cons.mp h
    unfold resolveEach
    rw [id_eq, resolve_of_fixed hfirst, pure_bind]
    simp only [Outcome.settle, ih hrest, pure_bind]

/-- A fixed value is evaluated to itself. -/
theorem evaluateStep_of_fixed {value : Value} (h : value.evaluationKind = .fixed) :
    evaluateStep perform context value = pure (.success value) := by
  cases value with
  | array dynamic items =>
    obtain ⟨rfl, hitems⟩ := Value.evaluationKind_array_iff.mp h
    show evaluateArray perform context items = _
    unfold evaluateArray
    rw [resolveEach_of_fixed hitems, pure_bind]
    rfl
  | reference _ | property _ _ | call _ _ | memberCall _ _ _ | expression _ _ => cases h
  | int _ | double _ | char _ | string _ | boolean _ | null | undefined => rfl

/-- Resolving a value and evaluating it are the same computation. -/
theorem resolve_eq_perform_evaluate (value : Value) (fuel : Nat) (context : Context) :
    resolve (GuardedScript.perform (fuel + 1)) context value =
      GuardedScript.perform (fuel + 1) context (.evaluate value) := by
  unfold resolve
  cases hneeds : value.needsEvaluation with
  | true => rfl
  | false => exact (evaluateStep_of_fixed (value.evaluationKind_eq_fixed_iff.mpr hneeds)).symm

end Fixed

/-! ### Evaluation has an answer -/

/-- If the computation ends, then with a value or a failure. -/
def Responds (run : Run (Outcome Value)) : Prop :=
  ∀ state, (run state).1 ≠ some .empty

section Responds

variable {α : Type}

/-- An outcome that is not empty is a response. -/
theorem responds_pure {outcome : Outcome Value} (h : outcome ≠ .empty) :
    Responds (pure outcome) :=
  fun _ heq => h (Option.some.inj heq)

/-- A sequence responds if its second part does. -/
theorem responds_bind {run : Run α} {next : α → Run (Outcome Value)}
    (h : ∀ a, Responds (next a)) : Responds (run >>= next) := by
  intro state
  rw [Run.bind_apply]
  split
  · exact h _ _
  · exact nofun

/-- A search that finds nothing counts as a failure. -/
theorem responds_orFailure (run : Run (Outcome Value)) (reason : Failure) :
    Responds (do
      let outcome ← run
      return outcome.orElse (.failure reason)) := by
  refine responds_bind (fun outcome => responds_pure ?_)
  cases outcome with
  | success value => exact nofun
  | empty => exact nofun
  | failure reason => exact nofun

/-- To go on with a settled outcome responds if what comes next does. -/
theorem responds_onSettled (run : Run (Outcome Value)) {next : Value → Run (Outcome Value)}
    (h : ∀ value, Responds (next value)) :
    Responds (do
      match (← run).settle with
      | .error reason => return .failure reason
      | .ok value => next value) := by
  refine responds_bind (fun outcome => ?_)
  cases outcome.settle with
  | error reason => exact responds_pure nofun
  | ok value => exact h value

/-- One step of evaluation responds. -/
theorem responds_evaluateStep (perform : Evaluator) (context : Context) (value : Value) :
    Responds (evaluateStep perform context value) := by
  cases value with
  | int _ | double _ | char _ | string _ | boolean _ | null | undefined =>
    exact responds_pure nofun
  | array dynamic items =>
    refine responds_bind (fun result => ?_)
    cases result with
    | error reason => exact responds_pure nofun
    | ok items => exact responds_pure nofun
  | reference name => exact responds_orFailure (liftM (context.get name)) _
  | property receiver name =>
    exact responds_onSettled _ (fun _ => responds_orFailure _ _)
  | call name arguments =>
    refine responds_bind (fun result => ?_)
    cases result with
    | error reason => exact responds_pure nofun
    | ok arguments => exact responds_orFailure _ _
  | memberCall receiver name arguments =>
    refine responds_bind (fun result => ?_)
    cases result with
    | error reason => exact responds_pure nofun
    | ok arguments => exact responds_onSettled _ (fun _ => responds_orFailure _ _)
  | expression start operations =>
    refine responds_onSettled _ (fun _ => responds_bind (fun result => ?_))
    cases result with
    | error reason => exact responds_pure nofun
    | ok operations => exact responds_bind (fun _ => responds_pure nofun)

/-- Evaluation responds, with whatever fuel. -/
theorem responds_perform_evaluate (fuel : Nat) (context : Context) (value : Value) :
    Responds (perform fuel context (.evaluate value)) := by
  cases fuel with
  | zero => exact fun _ => nofun
  | succ fuel => exact responds_evaluateStep (perform fuel) context value

/-- To resolve a value responds, with whatever fuel. -/
theorem responds_resolve (fuel : Nat) (context : Context) (value : Value) :
    Responds (resolve (perform fuel) context value) := by
  unfold resolve
  split
  · exact responds_perform_evaluate fuel context value
  · exact responds_pure nofun

/-- What would be done without an answer has no influence on what is done. -/
theorem Responds.bind_congr {run : Run (Outcome Value)} (h : Responds run)
    {next other : Outcome Value → Run α}
    (agree : ∀ outcome, outcome ≠ .empty → next outcome = other outcome) :
    (run >>= next) = (run >>= other) := by
  funext state
  have hstate := h state
  rw [Run.bind_apply, Run.bind_apply]
  split
  · next outcome reached heq =>
    rw [heq] at hstate
    rw [agree outcome (fun hempty => hstate (congrArg some hempty))]
  · rfl

end Responds

/-- The classification of values is exact, and the shortcut for fixed values cannot be noticed.

A value needs no evaluation if and only if its kind is fixed, which is so if and only if going from
arrays to their elements leads from it to no lazy value and to no dynamic array, the value itself
included.  An array that is classified as unsure does need evaluation.  Evaluating a value that
needs none gives back the very same value and leaves the state as it is, so that resolving and
evaluating any value in any context have the same outcome and the same effects.  Neither of them
ever comes to nothing, and so computations that go on from there are the same if they differ only
in what they do with nothing. -/
theorem Value.resolve_agrees_with_evaluate (value : Value) :
    (value.needsEvaluation = false ↔ value.evaluationKind = .fixed) ∧
      (value.evaluationKind = .fixed ↔
        ∀ part, value.LeadsTo part → part.isDynamic = false) ∧
      (∀ dynamic items, value = .array dynamic items → stability dynamic items = .unsure →
        value.needsEvaluation = true) ∧
      ∀ (fuel : Nat) (context : Context),
        (value.needsEvaluation = false → ∀ state,
          (Request.evaluate value).serve (perform (fuel + 1)) context state =
            (some (.success value), state)) ∧
        (Request.resolve value).serve (perform (fuel + 1)) context =
          (Request.evaluate value).serve (perform (fuel + 1)) context ∧
        (∀ state, ((Request.evaluate value).serve (perform fuel) context state).1 ≠ some .empty ∧
          ((Request.resolve value).serve (perform fuel) context state).1 ≠ some .empty) ∧
        ∀ (α : Type) (next other : Outcome Value → Run α),
          (∀ outcome, outcome ≠ .empty → next outcome = other outcome) →
          ((Request.resolve value).serve (perform fuel) context >>= next) =
            ((Request.resolve value).serve (perform fuel) context >>= other) := by
  refine ⟨value.evaluationKind_eq_fixed_iff.symm, value.evaluationKind_eq_fixed_iff_leadsTo, ?_, ?_⟩
  · rintro dynamic items rfl hunsure
    exact needsEvaluation_of_unsure hunsure
  · intro fuel context
    refine ⟨?_, resolve_eq_perform_evaluate value fuel context, ?_, ?_⟩
    · intro hneeds state
      have hfixed := value.evaluationKind_eq_fixed_iff.mpr hneeds
      exact congrFun (evaluateStep_of_fixed hfixed) state
    · exact fun state => ⟨responds_perform_evaluate fuel context value state,
        responds_resolve fuel context value state⟩
    · exact fun α next other agree => (responds_resolve fuel context value).bind_congr agree

end GuardedScript

import GuardedScript.Function.Binding

/-!
# How arguments find parameters

A binding makes two passes over the arguments.  Each pass offers some of them, one after the other,
to the parameters that are still free, and keeps the others and those that found no parameter.  The
first pass offers the named arguments and the second one all that are left.  `Progress.sift` is the
loop that both passes are, and a binding is two of them and a close (`Function.bind?_eq_sifted`).

What is left over has no influence on which argument finds which parameter, and closing has none on
what is left over.
-/

set_option autoImplicit false

namespace GuardedScript

namespace Progress

/-- Binds an argument to the first free parameter that fits it. -/
def offer (progress : Progress) (argument : Argument Value) : Option Progress :=
  progress.take? (fun parameter => parameter.fits argument) argument.value

/-- Offers an argument if it is wanted. -/
def offerWanted (wanted : Argument Value → Bool) (progress : Progress)
    (argument : Argument Value) : Option Progress :=
  if wanted argument then progress.offer argument else none

/-- Offers the wanted arguments one after the other, and returns the arguments that were not wanted
or found no parameter. -/
def sift (wanted : Argument Value → Bool) :
    Progress → List (Argument Value) → List (Argument Value) × Progress
  | progress, [] => ([], progress)
  | progress, argument :: arguments =>
    match progress.offerWanted wanted argument with
    | some next => sift wanted next arguments
    | none => (argument :: (sift wanted progress arguments).1, (sift wanted progress arguments).2)

/-- Offers all arguments one after the other, and returns those that found no parameter. -/
def siftAll (progress : Progress) (arguments : List (Argument Value)) :
    List (Argument Value) × Progress :=
  progress.sift (fun _ => true) arguments

/-- The same progress with more values left over. -/
def leave (progress : Progress) (values : List Value) : Progress :=
  { progress with bound := { progress.bound with rest := progress.bound.rest ++ values } }

section Sift

variable {wanted : Argument Value → Bool} {progress next : Progress} {argument : Argument Value}
  {arguments : List (Argument Value)}

/-- A wanted argument is offered. -/
theorem offerWanted_of_wanted (h : wanted argument = true) :
    progress.offerWanted wanted argument = progress.offer argument :=
  if_pos h

/-- An argument that is not wanted is not taken. -/
theorem offerWanted_of_not_wanted (h : wanted argument = false) :
    progress.offerWanted wanted argument = none := by
  simp [offerWanted, h]

/-- An argument that is taken is gone. -/
theorem sift_cons_of_some (h : progress.offerWanted wanted argument = some next) :
    progress.sift wanted (argument :: arguments) = next.sift wanted arguments := by
  simp only [sift, h]

/-- An argument that is not taken is left over. -/
theorem sift_cons_of_none (h : progress.offerWanted wanted argument = none) :
    progress.sift wanted (argument :: arguments) =
      (argument :: (progress.sift wanted arguments).1, (progress.sift wanted arguments).2) := by
  simp only [sift, h]

/-- An argument that is taken is gone, where all are wanted. -/
theorem siftAll_cons_of_some (h : progress.offer argument = some next) :
    progress.siftAll (argument :: arguments) = next.siftAll arguments :=
  sift_cons_of_some h

/-- An argument that is not taken is left over, where all are wanted. -/
theorem siftAll_cons_of_none (h : progress.offer argument = none) :
    progress.siftAll (argument :: arguments) =
      (argument :: (progress.siftAll arguments).1, (progress.siftAll arguments).2) :=
  sift_cons_of_none h

end Sift

/-! ### Values left over -/

section Leave

variable (progress : Progress) (values : List Value)

/-- To leave over nothing changes nothing. -/
theorem leave_nil : progress.leave [] = progress := by
  simp [leave]

/-- What is left over at two times is left over together. -/
theorem leave_leave (more : List Value) :
    (progress.leave values).leave more = progress.leave (values ++ more) := by
  simp [leave]

/-- What is left over has no part in an offer. -/
theorem offer_leave (argument : Argument Value) :
    (progress.leave values).offer argument =
      (progress.offer argument).map (fun next => next.leave values) := by
  unfold offer take?
  rw [Option.map_map]
  rfl

/-- What is left over has no part in a sift. -/
theorem sift_leave (wanted : Argument Value → Bool) (arguments : List (Argument Value)) :
    (progress.leave values).sift wanted arguments =
      ((progress.sift wanted arguments).1, (progress.sift wanted arguments).2.leave values) := by
  induction arguments generalizing progress with
  | nil => rfl
  | cons argument arguments ih =>
    have htry : (progress.leave values).offerWanted wanted argument =
        (progress.offerWanted wanted argument).map (fun next => next.leave values) := by
      cases hwanted : wanted argument with
      | true => rw [offerWanted_of_wanted hwanted, offerWanted_of_wanted hwanted, offer_leave]
      | false =>
        rw [offerWanted_of_not_wanted hwanted, offerWanted_of_not_wanted hwanted, Option.map_none]
    cases hnext : progress.offerWanted wanted argument with
    | some next =>
      rw [hnext] at htry
      rw [sift_cons_of_some htry, sift_cons_of_some hnext, ih]
    | none =>
      rw [hnext] at htry
      rw [sift_cons_of_none htry, sift_cons_of_none hnext, ih]

/-- A sift leaves nothing over by itself. -/
theorem rest_sift (wanted : Argument Value → Bool) (arguments : List (Argument Value)) :
    (progress.sift wanted arguments).2.bound.rest = progress.bound.rest := by
  induction arguments generalizing progress with
  | nil => rfl
  | cons argument arguments ih =>
    cases hnext : progress.offerWanted wanted argument with
    | some next =>
      rw [sift_cons_of_some hnext, ih]
      cases hwanted : wanted argument with
      | true =>
        rw [offerWanted_of_wanted hwanted] at hnext
        obtain ⟨found, -, rfl⟩ := Option.map_eq_some_iff.mp hnext
        rfl
      | false =>
        rw [offerWanted_of_not_wanted hwanted] at hnext
        cases hnext
    | none => rw [sift_cons_of_none hnext, ih]

end Leave

/-! ### The two passes -/

/-- A parameter of the argument's name that accepts its value is one that fits it. -/
theorem take?_named (progress : Progress) (name : String) (value : Value) :
    progress.take? (fun parameter => parameter.name == name && parameter.accepts value) value =
      progress.offer ⟨some name, value⟩ := by
  have htest : (fun parameter : Parameter => parameter.name == name && parameter.accepts value) =
      (fun parameter => parameter.fits ⟨some name, value⟩) := by
    funext parameter
    simp only [Parameter.fits, Bool.beq_comm (a := name)]
  unfold offer
  rw [htest]

/-- The pass over the named arguments is a sift. -/
theorem takeNamed_eq_sift (progress : Progress) (arguments : List (Argument Value)) :
    progress.takeNamed arguments =
      progress.sift (fun argument => argument.name.isSome) arguments := by
  induction arguments generalizing progress with
  | nil => rfl
  | cons argument arguments ih =>
    obtain ⟨name, value⟩ := argument
    cases name with
    | none =>
      rw [sift_cons_of_none (offerWanted_of_not_wanted rfl)]
      simp only [takeNamed, ih]
    | some name =>
      have htry : progress.offerWanted (fun argument => argument.name.isSome) ⟨some name, value⟩ =
          progress.offer ⟨some name, value⟩ := offerWanted_of_wanted rfl
      simp only [takeNamed, take?_named]
      cases hoffer : progress.offer ⟨some name, value⟩ with
      | some next => rw [sift_cons_of_some (htry.trans hoffer), ← ih]
      | none => rw [sift_cons_of_none (htry.trans hoffer), ← ih]

/-- The pass over all arguments is a sift, after which the others must be allowed to be left
over. -/
theorem takeFitting_eq_siftAll (variadic : Bool) (progress : Progress)
    (arguments : List (Argument Value)) :
    progress.takeFitting variadic arguments =
      if variadic || (progress.siftAll arguments).1.isEmpty then
        some ((progress.siftAll arguments).2.leave
          ((progress.siftAll arguments).1.map Argument.value))
      else
        none := by
  induction arguments generalizing progress with
  | nil => simp [takeFitting, siftAll, sift, leave_nil]
  | cons argument arguments ih =>
    cases hoffer : progress.offer argument with
    | some next =>
      have htake : progress.take? (fun parameter => parameter.fits argument) argument.value =
          some next := hoffer
      rw [siftAll_cons_of_some hoffer, ← ih]
      simp only [takeFitting, htake]
    | none =>
      have htake : progress.take? (fun parameter => parameter.fits argument) argument.value =
          none := hoffer
      rw [siftAll_cons_of_none hoffer]
      simp only [takeFitting, htake]
      cases variadic with
      | false => simp
      | true =>
        have hpush : { progress with bound := progress.bound.pushRest argument.value } =
            progress.leave [argument.value] := rfl
        simp only [hpush, ih, siftAll, sift_leave, leave_leave, if_true, Bool.true_or,
          List.map_cons, List.singleton_append]

end Progress

/-- Both passes of a binding: the arguments that found no parameter, in call order, and how far the
binding has come. -/
def Function.sifted (function : Function) (arguments : List (Argument Value)) :
    List (Argument Value) × Progress :=
  let first := (Progress.start function.parameters).sift (fun argument => argument.name.isSome)
    arguments
  first.2.siftAll first.1

/-- A binding closes what the two passes have come to, unless arguments are left over that the
function does not allow. -/
theorem Function.bind?_eq_sifted (function : Function) (arguments : List (Argument Value)) :
    function.bind? arguments =
      if function.variadic || (function.sifted arguments).1.isEmpty then
        Slot.close? (function.sifted arguments).2.slots
          ⟨(function.sifted arguments).2.bound.named,
            (function.sifted arguments).1.map Argument.value⟩
      else
        none := by
  have hrest : (function.sifted arguments).2.bound.rest = [] := by
    unfold Function.sifted Progress.siftAll
    rw [Progress.rest_sift, Progress.rest_sift]
    rfl
  have hpasses : function.bind? arguments =
      (((Progress.start function.parameters).takeNamed arguments).2.takeFitting function.variadic
        ((Progress.start function.parameters).takeNamed arguments).1).bind
          (fun progress => Slot.close? progress.slots progress.bound) := rfl
  rw [hpasses, Progress.takeNamed_eq_sift, Progress.takeFitting_eq_siftAll]
  show (if function.variadic || (function.sifted arguments).1.isEmpty then
      some ((function.sifted arguments).2.leave ((function.sifted arguments).1.map Argument.value))
    else none).bind _ = _
  split
  · simp only [Option.bind_some, Progress.leave, hrest, List.nil_append]
  · rfl

/-! ### Closing -/

/-- Bindings with the same values under the same names, and the same values left over, are equal. -/
theorem Bindings.ext_get? {left right : Bindings}
    (named : ∀ name value, left.get? name = some value ↔ right.get? name = some value)
    (rest : left.rest = right.rest) : left = right := by
  have htable : left.named = right.named := Table.ext_get? (fun name => Option.ext (named name))
  exact Bindings.ext htable rest

/-- A name has the value that it was bound to last. -/
theorem Bindings.get?_insert (bindings : Bindings) (name other : String) (value : Value) :
    (bindings.insert name value).get? other =
      if name = other then some value else bindings.get? other :=
  Table.get?_insert bindings.named name other value

namespace Slot

/-- Closing leaves alone what is left over. -/
theorem close?_rest (slots : List Slot) (named : Table Value) (rest : List Value) :
    close? slots ⟨named, rest⟩ =
      (close? slots ⟨named, []⟩).map (fun bound => ⟨bound.named, rest⟩) := by
  induction slots generalizing named with
  | nil => rfl
  | cons slot slots ih =>
    unfold close?
    cases slot.taken with
    | true => exact ih named
    | false =>
      cases slot.parameter.missing with
      | mandatory => rfl
      | optional => exact ih named
      | substitute default => exact ih (named.insert slot.parameter.name default)

/-- Closing succeeds if no free parameter is mandatory, and then adds the defaults of the free
parameters to what is bound. -/
theorem close?_eq_some_iff {slots : List Slot} {bound closed : Bindings}
    (distinct : (slots.map (fun slot => slot.parameter.name)).Nodup)
    (apart : ∀ slot ∈ slots, slot.taken = false → bound.get? slot.parameter.name = none) :
    close? slots bound = some closed ↔
      (∀ slot ∈ slots, slot.taken = false → slot.parameter.missing ≠ .mandatory) ∧
      closed.rest = bound.rest ∧
      ∀ name value, closed.get? name = some value ↔ bound.get? name = some value ∨
        ∃ slot ∈ slots, slot.taken = false ∧ slot.parameter.name = name ∧
          slot.parameter.missing = .substitute value := by
  induction slots generalizing bound with
  | nil =>
    simp only [close?, Option.some.injEq, List.not_mem_nil, false_and, exists_false, or_false,
      false_implies, implies_true, true_and]
    constructor
    · rintro rfl
      exact ⟨rfl, fun _ _ => Iff.rfl⟩
    · rintro ⟨hrest, hnamed⟩
      exact (Bindings.ext_get? hnamed hrest).symm
  | cons slot slots ih =>
    obtain ⟨hfirst, hdistinct⟩ := List.nodup_cons.mp distinct
    obtain ⟨hfree, hapart⟩ := List.forall_mem_cons.mp apart
    simp only [List.mem_cons, forall_eq_or_imp, exists_eq_or_imp]
    cases htaken : slot.taken with
    | true =>
      simp only [close?, htaken, if_true, ih hdistinct hapart, Bool.true_eq_false, false_implies,
        true_and, false_and, false_or]
    | false =>
      cases hmissing : slot.parameter.missing with
      | mandatory => simp [close?, htaken, hmissing]
      | optional =>
        simp only [close?, htaken, hmissing, ih hdistinct hapart, Bool.false_eq_true, if_false,
          ne_eq, reduceCtorEq, not_false_eq_true, implies_true, true_and, and_false, false_or]
      | substitute default =>
        have hfree := hfree htaken
        have hapart' : ∀ other ∈ slots, other.taken = false →
            (bound.insert slot.parameter.name default).get? other.parameter.name = none := by
          intro other hmem hother
          have hne : slot.parameter.name ≠ other.parameter.name :=
            fun heq => hfirst (List.mem_map.mpr ⟨other, hmem, heq.symm⟩)
          rw [Bindings.get?_insert, if_neg hne]
          exact hapart other hmem hother
        have hnames : ∀ name value,
            (bound.insert slot.parameter.name default).get? name = some value ↔
              bound.get? name = some value ∨ slot.parameter.name = name ∧ default = value := by
          intro name value
          rw [Bindings.get?_insert]
          by_cases heq : slot.parameter.name = name
          · subst heq
            simp [hfree]
          · simp [heq]
        simp only [close?, htaken, hmissing, ih hdistinct hapart', hnames, Bool.false_eq_true,
          if_false, ne_eq, reduceCtorEq, not_false_eq_true, implies_true, true_and, or_assoc,
          Missing.substitute.injEq]
        rfl

end Slot

end GuardedScript

import GuardedScript.Proofs.Sifting
import Mathlib.Data.List.Perm.Basic

/-!
# Named arguments may stand anywhere

A named argument either takes a parameter in the first pass or finds none in the second pass either,
so it never stands in the way of a positional one.  Named arguments with different names look for
different parameters, so they do not stand in each other's way.  Hence the arguments of a call can
be given in any order that keeps the positional ones in their order: what is bound is the same, and
what is left over is the same up to its order (`Function.bind?_perm`).

The parameters need not have different names for this.
-/

set_option autoImplicit false

namespace GuardedScript

/-! ### Taking slots one after the other -/

namespace Slot

variable {test other : Parameter → Bool} {slots : List Slot} {found found' : String × List Slot}

/-- No slot is taken if none that is free passes the test. -/
theorem take?_eq_none_iff :
    take? test slots = none ↔
      ∀ slot ∈ slots, (!slot.taken && test slot.parameter) = false := by
  induction slots with
  | nil => simp [take?]
  | cons slot slots ih =>
    rw [List.forall_mem_cons, take?]
    cases (!slot.taken && test slot.parameter) with
    | true => simp only [if_true, reduceCtorEq, Bool.true_eq_false, false_and]
    | false => simp only [Bool.false_eq_true, if_false, Option.map_eq_none_iff, ih, true_and]

/-- Taking a slot leaves the others as they are. -/
theorem mem_of_mem_take? (h : take? test slots = some found) {slot : Slot}
    (hmem : slot ∈ found.2) : slot ∈ slots ∨ slot.taken = true := by
  induction slots generalizing found with
  | nil => cases h
  | cons first slots ih =>
    unfold take? at h
    split at h
    · cases h
      rcases List.mem_cons.mp hmem with rfl | hrest
      · exact .inr rfl
      · exact .inl (List.mem_cons_of_mem _ hrest)
    · obtain ⟨rest, hrest, rfl⟩ := Option.map_eq_some_iff.mp h
      rcases List.mem_cons.mp hmem with rfl | hmem
      · exact .inl (List.mem_cons_self ..)
      · rcases ih hrest hmem with hold | htaken
        · exact .inl (List.mem_cons_of_mem _ hold)
        · exact .inr htaken

/-- A test that no free slot passes is passed by none after one more was taken. -/
theorem take?_eq_none_of_take? (h : take? test slots = some found)
    (hnone : take? other slots = none) : take? other found.2 = none := by
  rw [take?_eq_none_iff] at hnone ⊢
  intro slot hmem
  rcases mem_of_mem_take? h hmem with hold | htaken
  · exact hnone slot hold
  · simp [htaken]

/-- The name that is bound is that of a parameter which passes the test. -/
theorem exists_name_of_take? (h : take? test slots = some found) :
    ∃ parameter, test parameter = true ∧ parameter.name = found.1 := by
  induction slots generalizing found with
  | nil => cases h
  | cons slot slots ih =>
    unfold take? at h
    split at h
    · next htest =>
      cases h
      exact ⟨slot.parameter, (Bool.and_eq_true_iff.mp htest).2, rfl⟩
    · obtain ⟨rest, hrest, rfl⟩ := Option.map_eq_some_iff.mp h
      obtain ⟨parameter, htest, hname⟩ := ih hrest
      exact ⟨parameter, htest, hname⟩

/-- Tests that no parameter passes both of take their slots in any order. -/
theorem take?_comm (disjoint : ∀ parameter, test parameter = true → other parameter = false)
    (h : take? test slots = some found) (h' : take? other slots = some found') :
    ∃ slots', take? other found.2 = some (found'.1, slots') ∧
      take? test found'.2 = some (found.1, slots') := by
  induction slots generalizing found found' with
  | nil => cases h
  | cons slot slots ih =>
    cases htest : (!slot.taken && test slot.parameter) with
    | true =>
      have hother : (!slot.taken && other slot.parameter) = false := by
        rw [disjoint _ (Bool.and_eq_true_iff.mp htest).2, Bool.and_false]
      simp only [take?, htest, if_true, Option.some.injEq] at h
      simp only [take?, hother, Bool.false_eq_true, if_false, Option.map_eq_some_iff] at h'
      obtain ⟨rest, hrest, rfl⟩ := h'
      subst h
      exact ⟨{ slot with taken := true } :: rest.2, by simp [take?, hrest], by simp [take?, htest]⟩
    | false =>
      simp only [take?, htest, Bool.false_eq_true, if_false, Option.map_eq_some_iff] at h
      obtain ⟨rest, hrest, rfl⟩ := h
      cases hother : (!slot.taken && other slot.parameter) with
      | true =>
        simp only [take?, hother, if_true, Option.some.injEq] at h'
        subst h'
        exact ⟨{ slot with taken := true } :: rest.2, by simp [take?, hother],
          by simp [take?, hrest]⟩
      | false =>
        simp only [take?, hother, Bool.false_eq_true, if_false, Option.map_eq_some_iff] at h'
        obtain ⟨rest', hrest', rfl⟩ := h'
        obtain ⟨slots', hfirst, hsecond⟩ := ih hrest hrest'
        exact ⟨slot :: slots', by simp [take?, hother, hfirst], by simp [take?, htest, hsecond]⟩

end Slot

/-- Different names may be bound in either order. -/
theorem Bindings.insert_comm (bindings : Bindings) {name other : String} (hne : name ≠ other)
    (value value' : Value) :
    (bindings.insert name value).insert other value' =
      (bindings.insert other value').insert name value := by
  have hnamed : ∀ key, ((bindings.insert name value).insert other value').get? key =
      ((bindings.insert other value').insert name value).get? key := by
    intro key
    simp only [Bindings.get?_insert]
    by_cases hkey : other = key
    · rw [if_pos hkey, if_neg (fun hname => hne (hname.trans hkey.symm)), if_pos hkey]
    · rw [if_neg hkey, if_neg hkey]
  exact Bindings.ext_get? (fun key _ => by rw [hnamed key]) rfl

/-! ### Offers -/

/-- A named argument fits the parameter of its name, if that accepts its value. -/
theorem Parameter.fits_of_named {argument : Argument Value} {name : String}
    (h : argument.name = some name) (parameter : Parameter) :
    parameter.fits argument = (name == parameter.name && parameter.accepts argument.value) := by
  rw [Parameter.fits, h]

namespace Progress

section Offers

variable {progress next next' : Progress} {argument other : Argument Value}

/-- What is not taken at first is not taken after another argument was. -/
theorem offer_eq_none_of_offer (h : progress.offer argument = some next)
    (hnone : progress.offer other = none) : next.offer other = none := by
  obtain ⟨found, hfound, rfl⟩ := Option.map_eq_some_iff.mp h
  have hslots := Option.map_eq_none_iff.mp hnone
  exact Option.map_eq_none_iff.mpr (Slot.take?_eq_none_of_take? hfound hslots)

/-- A named argument is bound to its own name. -/
theorem exists_slots_of_offer {name : String} (hname : argument.name = some name)
    (h : progress.offer argument = some next) :
    ∃ slots, Slot.take? (fun parameter => parameter.fits argument) progress.slots =
        some (name, slots) ∧
      next = ⟨slots, progress.bound.insert name argument.value⟩ := by
  obtain ⟨⟨found, slots⟩, hfound, rfl⟩ := Option.map_eq_some_iff.mp h
  obtain ⟨parameter, hfits, hparameter⟩ := Slot.exists_name_of_take? hfound
  rw [Parameter.fits_of_named hname, Bool.and_eq_true_iff, beq_iff_eq] at hfits
  obtain rfl : name = found := hfits.1.trans hparameter
  exact ⟨slots, hfound, rfl⟩

/-- Arguments with different names find their parameters in any order. -/
theorem offer_comm {name name' : String} (hname : argument.name = some name)
    (hname' : other.name = some name') (hne : name ≠ name')
    (h : progress.offer argument = some next) (h' : progress.offer other = some next') :
    ∃ final, next.offer other = some final ∧ next'.offer argument = some final := by
  obtain ⟨slots, hslots, rfl⟩ := exists_slots_of_offer hname h
  obtain ⟨slots', hslots', rfl⟩ := exists_slots_of_offer hname' h'
  have hdisjoint : ∀ parameter : Parameter, parameter.fits argument = true →
      parameter.fits other = false := by
    intro parameter hfits
    rw [Parameter.fits_of_named hname, Bool.and_eq_true_iff, beq_iff_eq] at hfits
    rw [Parameter.fits_of_named hname', ← hfits.1, beq_false_of_ne hne.symm, Bool.false_and]
  obtain ⟨final, hfirst, hsecond⟩ := Slot.take?_comm hdisjoint hslots hslots'
  have hbound := progress.bound.insert_comm hne argument.value other.value
  refine ⟨⟨final, (progress.bound.insert name argument.value).insert name' other.value⟩, ?_, ?_⟩
  · simp [offer, take?, hfirst]
  · simp [offer, take?, hsecond, hbound]

end Offers

/-! ### Sifting in another order -/

section Sift

variable {wanted : Argument Value → Bool} {progress : Progress}

/-- What is not taken at first is not taken after other arguments were sifted. -/
theorem offer_sift_eq_none {argument : Argument Value} (h : progress.offer argument = none)
    (arguments : List (Argument Value)) :
    (progress.sift wanted arguments).2.offer argument = none := by
  induction arguments generalizing progress with
  | nil => exact h
  | cons first arguments ih =>
    cases hnext : progress.offerWanted wanted first with
    | none =>
      rw [sift_cons_of_none hnext]
      exact ih h
    | some next =>
      rw [sift_cons_of_some hnext]
      cases hwanted : wanted first with
      | true =>
        rw [offerWanted_of_wanted hwanted] at hnext
        exact ih (offer_eq_none_of_offer hnext h)
      | false =>
        rw [offerWanted_of_not_wanted hwanted] at hnext
        cases hnext

/-- A wanted argument that is kept finds no parameter later on either. -/
theorem offer_eq_none_of_kept {argument : Argument Value} {arguments : List (Argument Value)}
    (hwanted : wanted argument = true) (hkept : argument ∈ (progress.sift wanted arguments).1) :
    (progress.sift wanted arguments).2.offer argument = none := by
  induction arguments generalizing progress with
  | nil => cases hkept
  | cons first arguments ih =>
    cases hnext : progress.offerWanted wanted first with
    | some next =>
      rw [sift_cons_of_some hnext] at hkept ⊢
      exact ih hkept
    | none =>
      rw [sift_cons_of_none hnext] at hkept ⊢
      rcases List.mem_cons.mp hkept with rfl | hrest
      · rw [offerWanted_of_wanted hwanted] at hnext
        exact offer_sift_eq_none hnext arguments
      · exact ih hrest

/-- The arguments that are not wanted are kept in their order, and the wanted ones are sifted as if
they were alone. -/
theorem sift_filter (wanted : Argument Value → Bool) (progress : Progress)
    (arguments : List (Argument Value)) :
    (progress.sift wanted arguments).2 = (progress.siftAll (arguments.filter wanted)).2 ∧
      (progress.sift wanted arguments).1.filter wanted =
        (progress.siftAll (arguments.filter wanted)).1 ∧
      (progress.sift wanted arguments).1.filter (fun argument => !wanted argument) =
        arguments.filter (fun argument => !wanted argument) := by
  induction arguments generalizing progress with
  | nil => exact ⟨rfl, rfl, rfl⟩
  | cons first arguments ih =>
    cases hwanted : wanted first with
    | false =>
      obtain ⟨hfinal, hkept, hothers⟩ := ih progress
      rw [sift_cons_of_none (offerWanted_of_not_wanted hwanted)]
      simp [hwanted, hfinal, hkept, hothers]
    | true =>
      have hoffer : progress.offerWanted wanted first = progress.offer first :=
        offerWanted_of_wanted hwanted
      cases hnext : progress.offer first with
      | none =>
        obtain ⟨hfinal, hkept, hothers⟩ := ih progress
        rw [sift_cons_of_none (hoffer.trans hnext)]
        simp [hwanted, hfinal, hkept, hothers, siftAll_cons_of_none hnext]
      | some next =>
        obtain ⟨hfinal, hkept, hothers⟩ := ih next
        rw [sift_cons_of_some (hoffer.trans hnext)]
        simp [hwanted, hfinal, hkept, hothers, siftAll_cons_of_some hnext]

/-- An argument that finds no parameter may as well be not wanted. -/
theorem siftAll_eq_sift {arguments : List (Argument Value)}
    (idle : ∀ argument ∈ arguments, wanted argument = false → progress.offer argument = none) :
    progress.siftAll arguments = progress.sift wanted arguments := by
  induction arguments generalizing progress with
  | nil => rfl
  | cons first arguments ih =>
    obtain ⟨hfirst, hrest⟩ := List.forall_mem_cons.mp idle
    have hoffer : progress.offerWanted wanted first = progress.offer first := by
      cases hwanted : wanted first with
      | true => exact offerWanted_of_wanted hwanted
      | false => rw [offerWanted_of_not_wanted hwanted, hfirst hwanted]
    cases hnext : progress.offer first with
    | none =>
      rw [siftAll_cons_of_none hnext, sift_cons_of_none (hoffer.trans hnext), ih hrest]
    | some next =>
      rw [siftAll_cons_of_some hnext, sift_cons_of_some (hoffer.trans hnext)]
      exact ih (fun argument hmem hwanted =>
        offer_eq_none_of_offer hnext (hrest argument hmem hwanted))

/-- Named arguments with different names come to the same in any order. -/
theorem siftAll_perm {arguments others : List (Argument Value)} (perm : arguments.Perm others)
    (named : ∀ argument ∈ arguments, argument.name.isSome = true)
    (distinct : (arguments.map Argument.name).Nodup) (progress : Progress) :
    (progress.siftAll arguments).2 = (progress.siftAll others).2 ∧
      (progress.siftAll arguments).1.Perm (progress.siftAll others).1 := by
  induction perm generalizing progress with
  | nil => exact ⟨rfl, .refl _⟩
  | cons argument _ ih =>
    obtain ⟨-, hnamed⟩ := List.forall_mem_cons.mp named
    have hdistinct := (List.nodup_cons.mp distinct).2
    cases hnext : progress.offer argument with
    | none =>
      obtain ⟨hfinal, hkept⟩ := ih hnamed hdistinct progress
      rw [siftAll_cons_of_none hnext, siftAll_cons_of_none hnext]
      exact ⟨hfinal, hkept.cons argument⟩
    | some next =>
      rw [siftAll_cons_of_some hnext, siftAll_cons_of_some hnext]
      exact ih hnamed hdistinct next
  | swap first second rest =>
    have hnames : second.name ≠ first.name := by
      intro heq
      exact (List.nodup_cons.mp distinct).1 (heq ▸ List.mem_cons_self ..)
    obtain ⟨name, hname⟩ := Option.isSome_iff_exists.mp
      (named first (List.mem_cons_of_mem _ (List.mem_cons_self ..)))
    obtain ⟨name', hname'⟩ := Option.isSome_iff_exists.mp (named second (List.mem_cons_self ..))
    cases hfirst : progress.offer first with
    | none =>
      cases hsecond : progress.offer second with
      | none =>
        rw [siftAll_cons_of_none hsecond, siftAll_cons_of_none hfirst, siftAll_cons_of_none hfirst,
          siftAll_cons_of_none hsecond]
        exact ⟨rfl, .swap ..⟩
      | some next =>
        have hfirst' := offer_eq_none_of_offer hsecond hfirst
        rw [siftAll_cons_of_some hsecond, siftAll_cons_of_none hfirst',
          siftAll_cons_of_none hfirst, siftAll_cons_of_some hsecond]
        exact ⟨rfl, .refl _⟩
    | some next =>
      cases hsecond : progress.offer second with
      | none =>
        have hsecond' := offer_eq_none_of_offer hfirst hsecond
        rw [siftAll_cons_of_none hsecond, siftAll_cons_of_some hfirst,
          siftAll_cons_of_some hfirst, siftAll_cons_of_none hsecond']
        exact ⟨rfl, .refl _⟩
      | some next' =>
        have hne : name' ≠ name := fun heq => hnames (by rw [hname, hname', heq])
        obtain ⟨final, hfirst', hsecond'⟩ := offer_comm hname' hname hne hsecond hfirst
        rw [siftAll_cons_of_some hsecond, siftAll_cons_of_some hfirst',
          siftAll_cons_of_some hfirst, siftAll_cons_of_some hsecond']
        exact ⟨rfl, .refl _⟩
  | trans hfirst _ ih ih' =>
    have hnamed := fun argument hmem => named argument (hfirst.mem_iff.mpr hmem)
    have hdistinct := (hfirst.map Argument.name).nodup_iff.mp distinct
    obtain ⟨hfinal, hkept⟩ := ih named distinct progress
    obtain ⟨hfinal', hkept'⟩ := ih' hnamed hdistinct progress
    exact ⟨hfinal.trans hfinal', hkept.trans hkept'⟩

end Sift

end Progress

/-! ### Whole bindings -/

section Whole

variable {function : Function} {arguments others : List (Argument Value)}

/-- The two passes come to the same as offering the named arguments first and the positional ones
then, up to the order of what is left over. -/
theorem Function.sifted_eq (function : Function) (arguments : List (Argument Value)) :
    let named := (Progress.start function.parameters).siftAll
      (arguments.filter (fun argument => argument.name.isSome))
    let positional := named.2.siftAll (arguments.filter (fun argument => !argument.name.isSome))
    (function.sifted arguments).2 = positional.2 ∧
      (function.sifted arguments).1.Perm (named.1 ++ positional.1) := by
  intro named positional
  let isNamed : Argument Value → Bool := fun argument => argument.name.isSome
  let first := (Progress.start function.parameters).sift isNamed arguments
  obtain ⟨hfirst, hkept, hothers⟩ : first.2 = named.2 ∧ first.1.filter isNamed = named.1 ∧
      first.1.filter (fun argument => !isNamed argument) =
        arguments.filter (fun argument => !isNamed argument) :=
    Progress.sift_filter isNamed _ arguments
  -- the named arguments that the first pass kept find nothing in the second one
  have hsecond : function.sifted arguments =
      first.2.sift (fun argument => !isNamed argument) first.1 := by
    refine Progress.siftAll_eq_sift (fun argument hmem hnamed => ?_)
    exact Progress.offer_eq_none_of_kept (by simpa using hnamed) hmem
  rw [hfirst] at hsecond
  obtain ⟨hfinal, hleft, hstill⟩ :=
    Progress.sift_filter (fun argument => !isNamed argument) named.2 first.1
  simp only [Bool.not_not, hkept] at hstill
  rw [hothers] at hfinal hleft
  rw [hsecond]
  have hperm := List.filter_append_perm isNamed
    (named.2.sift (fun argument => !isNamed argument) first.1).1
  rw [hstill, hleft] at hperm
  exact ⟨hfinal, hperm.symm⟩

/-- Named arguments with different names are told apart by them. -/
theorem nodup_map_name (distinct : (arguments.filterMap Argument.name).Nodup) :
    ((arguments.filter (fun argument => argument.name.isSome)).map Argument.name).Nodup := by
  have hnames : (arguments.filter (fun argument => argument.name.isSome)).map Argument.name =
      (arguments.filterMap Argument.name).map some := by
    clear distinct
    induction arguments with
    | nil => rfl
    | cons argument arguments ih =>
      cases hname : argument.name with
      | none => simp [hname, ih]
      | some name => simp [hname, ih]
  rw [hnames]
  exact List.Pairwise.map some (fun _ _ hne heq => hne (Option.some.inj heq)) distinct

/-- What the passes come to depends on the positional arguments and on which named ones there
are. -/
theorem Function.sifted_perm (perm : arguments.Perm others)
    (distinct : (arguments.filterMap Argument.name).Nodup)
    (positional : arguments.filter (fun argument => !argument.name.isSome) =
      others.filter (fun argument => !argument.name.isSome)) :
    (function.sifted arguments).2 = (function.sifted others).2 ∧
      (function.sifted arguments).1.Perm (function.sifted others).1 := by
  obtain ⟨hfinal, hleft⟩ := function.sifted_eq arguments
  obtain ⟨hfinal', hleft'⟩ := function.sifted_eq others
  obtain ⟨hnamed, hkept⟩ := Progress.siftAll_perm
    (perm.filter (fun argument => argument.name.isSome))
    (fun argument hmem => (List.mem_filter.mp hmem).2) (nodup_map_name distinct)
    (Progress.start function.parameters)
  rw [hnamed, positional] at hfinal hleft
  exact ⟨hfinal.trans hfinal'.symm, hleft.trans ((hkept.append_right _).trans hleft'.symm)⟩

/-- The position of named arguments does not matter.  If two calls pass the same arguments, each
name once, and the positional ones in the same order, then a function applies to both or to
neither; it binds the same values to the same names, and leaves over the same values up to their
order, which are none if it is not variadic. -/
theorem Function.bind?_perm (perm : arguments.Perm others)
    (distinct : (arguments.filterMap Argument.name).Nodup)
    (positional : arguments.filter (fun argument => !argument.name.isSome) =
      others.filter (fun argument => !argument.name.isSome)) :
    ((function.bind? arguments).isSome = (function.bind? others).isSome) ∧
      ∀ left right, function.bind? arguments = some left → function.bind? others = some right →
        (∀ name, left.get? name = right.get? name) ∧ left.rest.Perm right.rest ∧
          (function.variadic = false → left.rest = [] ∧ right.rest = []) := by
  obtain ⟨hfinal, hleft⟩ : (function.sifted arguments).2 = (function.sifted others).2 ∧
      (function.sifted arguments).1.Perm (function.sifted others).1 :=
    Function.sifted_perm perm distinct positional
  rw [Function.bind?_eq_sifted, Function.bind?_eq_sifted, hleft.isEmpty_eq, hfinal,
    Slot.close?_rest, Slot.close?_rest _ _ ((function.sifted others).1.map Argument.value)]
  by_cases hallowed : (function.variadic || (function.sifted others).1.isEmpty) = true
  · rw [if_pos hallowed, if_pos hallowed]
    refine ⟨by simp only [Option.isSome_map], ?_⟩
    intro left right h h'
    obtain ⟨closed, hclosed, rfl⟩ := Option.map_eq_some_iff.mp h
    obtain ⟨closed', hclosed', rfl⟩ := Option.map_eq_some_iff.mp h'
    obtain rfl : closed = closed' := Option.some.inj (hclosed.symm.trans hclosed')
    refine ⟨fun _ => rfl, hleft.map Argument.value, ?_⟩
    intro hfixed
    rw [hfixed, Bool.false_or, List.isEmpty_iff] at hallowed
    rw [hallowed] at hleft ⊢
    rw [hleft.eq_nil]
    exact ⟨rfl, rfl⟩
  · rw [if_neg hallowed, if_neg hallowed]
    refine ⟨rfl, ?_⟩
    intro left right h
    cases h

end Whole

/-- A variadic function with two parameters. -/
def duo : Function :=
  ⟨0, "f", [.mandatory "a" (.declared .int), .optional "b" (.declared .object)], true,
    .native (fun _ => .done .empty)⟩

/-- Two named arguments move across the positional ones: one of them takes the parameter that the
first positional one would fit, the other one has no parameter and is left over in another place. -/
theorem bind?_perm_duo :
    let arguments := [.positional (.int 1), .named "b" (.int 2), .positional (.int 3),
      .named "z" (.int 4)]
    let others := [.named "z" (.int 4), .positional (.int 1), .positional (.int 3),
      .named "b" (.int 2)]
    arguments.Perm others ∧ (arguments.filterMap Argument.name).Nodup ∧
      (arguments.filter (fun argument => !argument.name.isSome) =
        others.filter (fun argument => !argument.name.isSome)) ∧
      (duo.bind? arguments).map Bindings.rest = some [.int 3, .int 4] ∧
      (duo.bind? others).map Bindings.rest = some [.int 4, .int 3] ∧
      ((duo.bind? arguments).isSome = (duo.bind? others).isSome) ∧
      ∀ left right, duo.bind? arguments = some left → duo.bind? others = some right →
        (∀ name, left.get? name = right.get? name) ∧ left.rest.Perm right.rest ∧
          (duo.variadic = false → left.rest = [] ∧ right.rest = []) := by
  intro arguments others
  have hperm : arguments.Perm others := by
    show ([_, _, _] ++ [_]).Perm _
    exact List.perm_append_comm.trans (.cons _ (.cons _ (.swap ..)))
  have hdistinct : (arguments.filterMap Argument.name).Nodup := by decide
  have hpositional : arguments.filter (fun argument => !argument.name.isSome) =
      others.filter (fun argument => !argument.name.isSome) := rfl
  exact ⟨hperm, hdistinct, hpositional, by rfl, by rfl,
    Function.bind?_perm hperm hdistinct hpositional⟩

end GuardedScript

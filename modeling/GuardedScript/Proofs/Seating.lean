import GuardedScript.Proofs.Sifting
import Mathlib.Data.List.FinRange

/-!
# Which argument is bound to which parameter

Arguments take parameters in turns: first the named ones and then the others, each in call order.
An argument takes the first parameter in declaration order that fits it and that no argument with
an earlier turn has taken.  This alone says for every argument which parameter it takes, if any
(`seat`), and the passes of a binding do just that (`sifted_reflects`).

So a binding succeeds with certain bindings if and only if there is a way to seat the arguments by
this rule in which the bindings hold the value of every seated argument under the name of its
parameter, the defaults of the parameters without an argument, the values of all other arguments
in call order, and nothing else (`Function.bind?_eq_some_iff_seating`).
-/

set_option autoImplicit false

namespace GuardedScript

/-! ### Turns and seats -/

/-- When an argument has its turn: the named ones come first, and else the call order counts. -/
def turn (arguments : List (Argument Value)) (place : Fin arguments.length) : Nat :=
  if (arguments.get place).name.isSome then place else arguments.length + place

/-- The parameter that an argument takes: the first one that fits it and that no argument with an
earlier turn takes. -/
def seat (parameters : List Parameter) (arguments : List (Argument Value))
    (place : Fin arguments.length) : Option (Fin parameters.length) :=
  Fin.find? (fun slot => (parameters.get slot).fits (arguments.get place) &&
    (List.finRange arguments.length).all (fun other =>
      if _h : turn arguments other < turn arguments place then
        seat parameters arguments other != some slot
      else
        true))
termination_by turn arguments place

section Turns

variable {arguments : List (Argument Value)} {place other : Fin arguments.length}

/-- A named argument has its turn at its place. -/
theorem turn_of_named (h : (arguments.get place).name.isSome = true) :
    turn arguments place = place :=
  if_pos h

/-- A positional argument has its turn after all named ones. -/
theorem turn_of_positional (h : (arguments.get place).name.isSome = false) :
    turn arguments place = arguments.length + place := by
  simp only [turn, h, Bool.false_eq_true, if_false]

/-- No two arguments have the same turn. -/
theorem turn_injective (h : turn arguments place = turn arguments other) : place = other := by
  unfold turn at h
  apply Fin.ext
  split at h <;> split at h <;> omega

end Turns

section Seats

variable {parameters : List Parameter} {arguments : List (Argument Value)}
  {assigned : Fin arguments.length → Option (Fin parameters.length)}
  {place other : Fin arguments.length} {slot : Fin parameters.length}

/-- A parameter fits an argument, and no argument with an earlier turn takes it. -/
def Open (assigned : Fin arguments.length → Option (Fin parameters.length))
    (place : Fin arguments.length) (slot : Fin parameters.length) : Prop :=
  (parameters.get slot).fits (arguments.get place) = true ∧
    ∀ other, turn arguments other < turn arguments place → assigned other ≠ some slot

/-- A parameter is the first one that is open to an argument. -/
def FirstOpen (assigned : Fin arguments.length → Option (Fin parameters.length))
    (place : Fin arguments.length) (slot : Fin parameters.length) : Prop :=
  Open assigned place slot ∧ ∀ earlier < slot, ¬ Open assigned place earlier

/-- The test by which an argument finds its parameter. -/
theorem seat_test_iff :
    ((parameters.get slot).fits (arguments.get place) &&
      (List.finRange arguments.length).all (fun other =>
        if _h : turn arguments other < turn arguments place then
          seat parameters arguments other != some slot
        else
          true)) = true ↔ Open (seat parameters arguments) place slot := by
  simp only [Open, Bool.and_eq_true, List.all_eq_true, List.mem_finRange, true_implies]
  refine and_congr_right (fun _ => forall_congr' (fun other => ?_))
  by_cases h : turn arguments other < turn arguments place
  · simp [h]
  · simp [h]

/-- An argument takes the first parameter that is open to it. -/
theorem seat_eq_some_iff :
    seat parameters arguments place = some slot ↔
      FirstOpen (seat parameters arguments) place slot := by
  rw [seat, Fin.find?_eq_some_iff]
  simp only [← Bool.not_eq_true, seat_test_iff]
  rfl

/-- An argument takes no parameter if none is open to it. -/
theorem seat_eq_none_iff :
    seat parameters arguments place = none ↔
      ∀ slot, ¬ Open (seat parameters arguments) place slot := by
  rw [seat, Fin.find?_eq_none_iff]
  simp only [← Bool.not_eq_true, seat_test_iff]

/-- No two arguments take the same parameter, since one of them has an earlier turn. -/
theorem injective_of_first
    (first : ∀ place slot, assigned place = some slot ↔ FirstOpen assigned place slot)
    (hplace : assigned place = some slot) (hother : assigned other = some slot) :
    place = other := by
  have hopen : Open assigned place slot := ((first place slot).mp hplace).1
  have hopen' : Open assigned other slot := ((first other slot).mp hother).1
  rcases Nat.lt_trichotomy (turn arguments place) (turn arguments other) with hlt | heq | hgt
  · exact absurd hplace (hopen'.2 place hlt)
  · exact turn_injective heq
  · exact absurd hother (hopen.2 other hgt)

/-- The rule leaves no choice: the parameter of an argument depends only on those of the arguments
with earlier turns. -/
theorem eq_seat_of_first
    (first : ∀ place slot, assigned place = some slot ↔ FirstOpen assigned place slot) :
    assigned = seat parameters arguments := by
  funext place
  induction hturn : turn arguments place using Nat.strong_induction_on generalizing place with
  | h count ih =>
    have hopen : ∀ slot, Open assigned place slot ↔
        Open (seat parameters arguments) place slot := by
      intro slot
      refine and_congr_right (fun _ => forall_congr' (fun other => ?_))
      refine imp_congr_right (fun hlt => ?_)
      rw [ih (turn arguments other) (hturn ▸ hlt) other rfl]
    apply Option.ext
    intro slot
    rw [first, seat_eq_some_iff]
    simp only [FirstOpen, hopen]

end Seats

/-! ### The passes of a binding -/

/-- The parameters as slots, with a mark on those that are taken. -/
def Slot.row (parameters : List Parameter) (taken : Fin parameters.length → Bool) : List Slot :=
  (List.finRange parameters.length).map (fun slot => ⟨parameters.get slot, taken slot⟩)

/-- Taking the first free slot that passes a test marks this slot and no other. -/
theorem Slot.take?_map {ι : Type} [DecidableEq ι] (parameter : ι → Parameter) (taken : ι → Bool)
    (test : Parameter → Bool) {places : List ι} (nodup : places.Nodup) :
    take? test (places.map (fun place => ⟨parameter place, taken place⟩)) =
      (places.find? (fun place => !taken place && test (parameter place))).map (fun found =>
        ((parameter found).name,
          places.map (fun place => ⟨parameter place, taken place || place == found⟩))) := by
  induction places with
  | nil => rfl
  | cons place places ih =>
    obtain ⟨hfirst, hrest⟩ := List.nodup_cons.mp nodup
    cases htest : (!taken place && test (parameter place)) with
    | true =>
      have hothers : ∀ other ∈ places, (⟨parameter other, taken other⟩ : Slot) =
          ⟨parameter other, taken other || other == place⟩ := by
        intro other hmem
        have hne : other ≠ place := fun heq => hfirst (heq ▸ hmem)
        simp [hne]
      simp [take?, htest, List.map_congr_left hothers]
    | false =>
      simp only [List.map_cons, take?, List.find?_cons, htest, Bool.false_eq_true, if_false,
        ih hrest]
      cases hfound : places.find? (fun place => !taken place && test (parameter place)) with
      | none => rfl
      | some found =>
        have hne : place ≠ found := fun heq => hfirst (heq ▸ List.mem_of_find?_eq_some hfound)
        simp [hne]

/-- Different parameters have different names. -/
theorem slot_eq_of_name {parameters : List Parameter}
    (distinct : (parameters.map Parameter.name).Nodup) {slot other : Fin parameters.length}
    (h : (parameters.get slot).name = (parameters.get other).name) : slot = other := by
  have hnames := List.pairwise_iff_getElem.mp (List.pairwise_map.mp distinct)
  rcases lt_trichotomy slot other with hlt | heq | hgt
  · exact absurd h (hnames slot other slot.isLt other.isLt hlt)
  · exact heq
  · exact absurd h.symm (hnames other slot other.isLt slot.isLt hgt)

section Passes

variable {parameters : List Parameter} {arguments : List (Argument Value)}

/-- A binding has come so far that the arguments with a property have had their turns: their
parameters are taken and bound to their values, and nothing else is. -/
structure Reflects (parameters : List Parameter) (arguments : List (Argument Value))
    (done : Fin arguments.length → Prop) (progress : Progress) : Prop where
  slots : ∃ taken, progress.slots = Slot.row parameters taken ∧ ∀ slot, taken slot = true ↔
    ∃ place, done place ∧ seat parameters arguments place = some slot
  named : ∀ name value, progress.bound.get? name = some value ↔
    ∃ place slot, done place ∧ seat parameters arguments place = some slot ∧
      (parameters.get slot).name = name ∧ (arguments.get place).value = value

variable (parameters arguments) in
/-- At the start no argument has had its turn. -/
theorem reflects_start :
    Reflects parameters arguments (fun _ => False) (Progress.start parameters) := by
  refine ⟨⟨fun _ => false, ?_, ?_⟩, ?_⟩
  · have hget := List.map_get_finRange parameters
    unfold Progress.start Slot.row
    conv_lhs => rw [← hget]
    rw [List.map_map]
    rfl
  · simp
  · intro name value
    have hunbound : (Progress.start parameters).bound.get? name = none := rfl
    simp [hunbound]

variable {done : Fin arguments.length → Prop} {progress : Progress} {place : Fin arguments.length}

/-- Only the arguments that take a parameter count. -/
theorem Reflects.congr (h : Reflects parameters arguments done progress)
    {others : Fin arguments.length → Prop}
    (same : ∀ place, seat parameters arguments place ≠ none → (done place ↔ others place)) :
    Reflects parameters arguments others progress := by
  have hseated : ∀ place slot, done place ∧ seat parameters arguments place = some slot ↔
      others place ∧ seat parameters arguments place = some slot := by
    intro place slot
    refine and_congr_left (fun hseat => same place ?_)
    simp [hseat]
  obtain ⟨taken, hslots, htaken⟩ := h.slots
  refine ⟨⟨taken, hslots, ?_⟩, ?_⟩
  · intro slot
    simp only [htaken, hseated]
  · intro name value
    rw [h.named]
    simp only [← and_assoc, hseated]

/-- The turn of an argument has come: those with earlier turns have had theirs. -/
structure Ready (parameters : List Parameter) (arguments : List (Argument Value))
    (done : Fin arguments.length → Prop) (place : Fin arguments.length) : Prop where
  due : ∀ other, turn arguments other < turn arguments place →
    seat parameters arguments other ≠ none → done other
  fresh : seat parameters arguments place ≠ none → ¬ done place

/-- An argument whose turn has come finds its own parameter free, and no other open one before
it. -/
theorem Ready.find?_eq_seat (ready : Ready parameters arguments done place)
    {taken : Fin parameters.length → Bool} (htaken : ∀ slot, taken slot = true ↔
      ∃ place, done place ∧ seat parameters arguments place = some slot) :
    Fin.find? (fun slot => !taken slot && (parameters.get slot).fits (arguments.get place)) =
      seat parameters arguments place := by
  -- a parameter that fits and is not open was taken by an argument with an earlier turn
  have hclosed : ∀ slot, ¬ Open (seat parameters arguments) place slot →
      (!taken slot && (parameters.get slot).fits (arguments.get place)) = false := by
    intro slot hopen
    cases hfits : (parameters.get slot).fits (arguments.get place) with
    | false => exact Bool.and_false _
    | true =>
      have hex : ∃ other, turn arguments other < turn arguments place ∧
          seat parameters arguments other = some slot := by
        by_contra hnone
        exact hopen ⟨hfits, fun other hlt hseat => hnone ⟨other, hlt, hseat⟩⟩
      obtain ⟨other, hlt, hseat⟩ := hex
      have hdone : done other := ready.due other hlt (by simp [hseat])
      rw [(htaken slot).mpr ⟨other, hdone, hseat⟩]
      rfl
  cases hseat : seat parameters arguments place with
  | none =>
    rw [Fin.find?_eq_none_iff]
    exact fun slot => hclosed slot (seat_eq_none_iff.mp hseat slot)
  | some slot =>
    obtain ⟨⟨hfits, -⟩, hearlier⟩ := seat_eq_some_iff.mp hseat
    have hfree : taken slot = false := by
      rw [← Bool.not_eq_true, htaken]
      rintro ⟨other, hdone, hother⟩
      have hsame : other = place :=
        injective_of_first (fun _ _ => seat_eq_some_iff) hother hseat
      exact ready.fresh (by simp [hseat]) (hsame ▸ hdone)
    rw [Fin.find?_eq_some_iff]
    exact ⟨by rw [hfree, hfits]; rfl, fun earlier hlt => hclosed earlier (hearlier earlier hlt)⟩

/-- An argument whose turn has come takes its parameter, or none if it has none. -/
theorem Reflects.offer (distinct : (parameters.map Parameter.name).Nodup)
    (h : Reflects parameters arguments done progress)
    (ready : Ready parameters arguments done place) :
    (seat parameters arguments place = none ∧ progress.offer (arguments.get place) = none) ∨
      ∃ next, (seat parameters arguments place).isNone = false ∧
        progress.offer (arguments.get place) = some next ∧
        Reflects parameters arguments (fun other => done other ∨ other = place) next := by
  obtain ⟨taken, hslots, htaken⟩ := h.slots
  have hfind := ready.find?_eq_seat htaken
  rw [Fin.find?_eq_find?_finRange] at hfind
  unfold Progress.offer Progress.take?
  rw [hslots, Slot.row, Slot.take?_map _ _ _ (List.nodup_finRange _), hfind, Option.map_map]
  cases hseat : seat parameters arguments place with
  | none => exact .inl ⟨rfl, rfl⟩
  | some slot =>
    refine .inr ⟨_, rfl, rfl, ⟨_, rfl, ?_⟩, ?_⟩
    · intro other
      rw [Bool.or_eq_true, htaken, beq_iff_eq]
      simp only [or_and_right, exists_or, exists_eq_left, hseat, Option.some.injEq]
      rw [eq_comm (a := slot)]
    · intro name value
      show (progress.bound.insert (parameters.get slot).name
        (arguments.get place).value).get? name = some value ↔ _
      rw [Bindings.get?_insert]
      by_cases hname : (parameters.get slot).name = name
      · rw [if_pos hname, Option.some.injEq]
        constructor
        · exact fun hvalue => ⟨place, slot, .inr rfl, hseat, hname, hvalue⟩
        · rintro ⟨other, found, -, hother, hfound, hvalue⟩
          obtain rfl : found = slot := slot_eq_of_name distinct (hfound.trans hname.symm)
          rw [injective_of_first (fun _ _ => seat_eq_some_iff) hseat hother]
          exact hvalue
      · rw [if_neg hname, h.named]
        constructor
        · rintro ⟨other, found, hdone, hrest⟩
          exact ⟨other, found, .inl hdone, hrest⟩
        · rintro ⟨other, found, hdone | rfl, hother, hrest⟩
          · exact ⟨other, found, hdone, hother, hrest⟩
          · obtain rfl : slot = found := Option.some.inj (hseat.symm.trans hother)
            exact absurd hrest.1 hname

variable {wanted : Argument Value → Bool}

/-- One step of a pass: the argument is kept, or it takes its parameter. -/
theorem Reflects.step (distinct : (parameters.map Parameter.name).Nodup)
    (h : Reflects parameters arguments done progress)
    (ready : wanted (arguments.get place) = true → Ready parameters arguments done place) :
    (progress.offerWanted wanted (arguments.get place) = none ∧
        (!wanted (arguments.get place) || (seat parameters arguments place).isNone) = true ∧
        Reflects parameters arguments
          (fun other => done other ∨ other = place ∧ wanted (arguments.get other) = true)
          progress) ∨
      ∃ next, progress.offerWanted wanted (arguments.get place) = some next ∧
        (!wanted (arguments.get place) || (seat parameters arguments place).isNone) = false ∧
        Reflects parameters arguments
          (fun other => done other ∨ other = place ∧ wanted (arguments.get other) = true)
          next := by
  cases hwanted : wanted (arguments.get place) with
  | false =>
    refine .inl ⟨Progress.offerWanted_of_not_wanted hwanted, rfl, h.congr (fun other _ => ?_)⟩
    refine (or_iff_left ?_).symm
    rintro ⟨rfl, hother⟩
    rw [hwanted] at hother
    cases hother
  | true =>
    rw [Progress.offerWanted_of_wanted hwanted]
    rcases h.offer distinct (ready hwanted) with ⟨hseat, hoffer⟩ | ⟨next, hseat, hoffer, hnext⟩
    · refine .inl ⟨hoffer, by simp [hseat], h.congr (fun other hother => ?_)⟩
      refine (or_iff_left ?_).symm
      rintro ⟨rfl, -⟩
      exact hother hseat
    · refine .inr ⟨next, hoffer, by simp [hseat], hnext.congr (fun other _ => ?_)⟩
      refine or_congr_right (and_iff_left_of_imp ?_).symm
      rintro rfl
      exact hwanted

variable (wanted) in
/-- One pass: every wanted argument takes its parameter if it has one, and the others are kept. -/
theorem Reflects.sift (distinct : (parameters.map Parameter.name).Nodup)
    {places : List (Fin arguments.length)} (h : Reflects parameters arguments done progress)
    (ready : ∀ before place after, places = before ++ place :: after →
      wanted (arguments.get place) = true → Ready parameters arguments
        (fun other => done other ∨ other ∈ before ∧ wanted (arguments.get other) = true) place) :
    (progress.sift wanted (places.map arguments.get)).1 =
        (places.filter (fun place => !wanted (arguments.get place) ||
          (seat parameters arguments place).isNone)).map arguments.get ∧
      Reflects parameters arguments
        (fun other => done other ∨ other ∈ places ∧ wanted (arguments.get other) = true)
        (progress.sift wanted (places.map arguments.get)).2 := by
  induction places generalizing done progress with
  | nil => exact ⟨rfl, h.congr (by simp)⟩
  | cons place places ih =>
    have hfirst : wanted (arguments.get place) = true → Ready parameters arguments done place := by
      simpa using ready [] place places rfl
    have hdone : ∀ others : List (Fin arguments.length),
        (fun other => done other ∨ other ∈ place :: others ∧ wanted (arguments.get other) = true) =
          (fun other => (done other ∨ other = place ∧ wanted (arguments.get other) = true) ∨
            other ∈ others ∧ wanted (arguments.get other) = true) := by
      intro others
      funext other
      rw [List.mem_cons, or_and_right, or_assoc]
    have hrest : ∀ before other after, places = before ++ other :: after →
        wanted (arguments.get other) = true → Ready parameters arguments
          (fun other' => (done other' ∨ other' = place ∧ wanted (arguments.get other') = true) ∨
            other' ∈ before ∧ wanted (arguments.get other') = true) other := by
      intro before other after hsplit hwanted
      rw [← hdone]
      exact ready (place :: before) other after (by rw [hsplit, List.cons_append]) hwanted
    rw [List.map_cons, List.filter_cons, hdone]
    rcases h.step distinct hfirst with ⟨hoffer, hkept, hreflects⟩ | ⟨next, hoffer, hkept, hreflects⟩
    · obtain ⟨hleft, hfinal⟩ := ih hreflects hrest
      rw [Progress.sift_cons_of_none hoffer, if_pos hkept, List.map_cons, hleft]
      exact ⟨rfl, hfinal⟩
    · rw [Progress.sift_cons_of_some hoffer, if_neg (by rw [hkept]; exact Bool.false_ne_true)]
      exact ih hreflects hrest

/-- In increasing order, what is smaller than a place stands before it. -/
theorem mem_before_of_lt {places before after : List (Fin arguments.length)}
    (sorted : places.Pairwise (· < ·)) (split : places = before ++ place :: after)
    {other : Fin arguments.length} (hmem : other ∈ places) (hlt : other < place) :
    other ∈ before := by
  subst split
  obtain ⟨-, hafter, -⟩ := List.pairwise_append.mp sorted
  rcases List.mem_append.mp hmem with hbefore | hrest
  · exact hbefore
  · rcases List.mem_cons.mp hrest with rfl | hlater
    · exact absurd hlt (lt_irrefl _)
    · exact absurd ((List.pairwise_cons.mp hafter).1 other hlater) (not_lt_of_gt hlt)

/-- A place does not come before itself in an ordered list. -/
theorem not_mem_before {places before after : List (Fin arguments.length)}
    (sorted : places.Pairwise (· < ·)) (split : places = before ++ place :: after) :
    place ∉ before := by
  subst split
  obtain ⟨-, -, hbefore⟩ := List.pairwise_append.mp sorted
  intro hmem
  exact absurd (hbefore place hmem place (List.mem_cons_self ..)) (lt_irrefl _)

/-- In the first pass the named arguments have their turns in call order. -/
theorem ready_named {before after : List (Fin arguments.length)}
    (split : List.finRange arguments.length = before ++ place :: after)
    (named : (arguments.get place).name.isSome = true) :
    Ready parameters arguments
      (fun other => False ∨ other ∈ before ∧ (arguments.get other).name.isSome = true) place := by
  have hsorted := List.pairwise_lt_finRange arguments.length
  refine ⟨?_, ?_⟩
  · intro other hlt _
    rw [turn_of_named named] at hlt
    cases hother : (arguments.get other).name.isSome with
    | true =>
      rw [turn_of_named hother] at hlt
      exact .inr ⟨mem_before_of_lt hsorted split (List.mem_finRange _) hlt, rfl⟩
    | false =>
      rw [turn_of_positional hother] at hlt
      omega
  · rintro - (h | ⟨hmem, -⟩)
    · exact h
    · exact not_mem_before hsorted split hmem

/-- In the second pass the other arguments have their turns in call order; a named argument that is
still there has no parameter. -/
theorem ready_positional {before after : List (Fin arguments.length)}
    (split : (List.finRange arguments.length).filter (fun place =>
      !(arguments.get place).name.isSome || (seat parameters arguments place).isNone) =
        before ++ place :: after) :
    Ready parameters arguments
      (fun other => (arguments.get other).name.isSome = true ∨ other ∈ before ∧ true = true)
      place := by
  have hsorted := (List.pairwise_lt_finRange arguments.length).filter (fun place =>
    !(arguments.get place).name.isSome || (seat parameters arguments place).isNone)
  refine ⟨?_, ?_⟩
  · intro other hlt hseat
    cases hother : (arguments.get other).name.isSome with
    | true => exact .inl rfl
    | false =>
      have hmem : other ∈ (List.finRange arguments.length).filter (fun place =>
          !(arguments.get place).name.isSome || (seat parameters arguments place).isNone) :=
        List.mem_filter.mpr ⟨List.mem_finRange _, by rw [hother]; rfl⟩
      rw [turn_of_positional hother] at hlt
      cases hplace : (arguments.get place).name.isSome with
      | true =>
        rw [turn_of_named hplace] at hlt
        omega
      | false =>
        rw [turn_of_positional hplace] at hlt
        exact .inr ⟨mem_before_of_lt hsorted split hmem (by omega), rfl⟩
  · rintro hseat (hnamed | ⟨hmem, -⟩)
    · have hmem : place ∈ (List.finRange arguments.length).filter (fun place =>
          !(arguments.get place).name.isSome || (seat parameters arguments place).isNone) := by
        rw [split]
        exact List.mem_append_right _ (List.mem_cons_self ..)
      have hkept := (List.mem_filter.mp hmem).2
      rw [hnamed] at hkept
      exact hseat (Option.isNone_iff_eq_none.mp hkept)
    · exact not_mem_before hsorted split hmem

end Passes

/-- After both passes the arguments without a parameter are left over in call order, and all others
have taken their parameters. -/
theorem sifted_reflects {function : Function}
    (distinct : (function.parameters.map Parameter.name).Nodup)
    (arguments : List (Argument Value)) :
    (function.sifted arguments).1 =
        ((List.finRange arguments.length).filter (fun place =>
          (seat function.parameters arguments place).isNone)).map arguments.get ∧
      Reflects function.parameters arguments (fun _ => True) (function.sifted arguments).2 := by
  let isNamed : Argument Value → Bool := fun argument => argument.name.isSome
  let start := Progress.start function.parameters
  let remaining := (List.finRange arguments.length).filter (fun place =>
    !isNamed (arguments.get place) || (seat function.parameters arguments place).isNone)
  have hfirst : (start.sift isNamed arguments).1 = remaining.map arguments.get ∧
      Reflects function.parameters arguments
        (fun place => False ∨ place ∈ List.finRange arguments.length ∧
          isNamed (arguments.get place) = true)
        (start.sift isNamed arguments).2 := by
    have hsift := (reflects_start function.parameters arguments).sift isNamed distinct
      (fun before place after split named => ready_named split named)
    rwa [List.map_get_finRange] at hsift
  have hnamed : Reflects function.parameters arguments
      (fun place => (arguments.get place).name.isSome = true) (start.sift isNamed arguments).2 :=
    hfirst.2.congr (fun place _ => by simp [isNamed])
  obtain ⟨hleft, hfinal⟩ := hnamed.sift (fun _ => true) distinct
    (fun before place after split _ => ready_positional split)
  unfold Function.sifted
  show ((start.sift isNamed arguments).2.sift (fun _ => true) (start.sift isNamed arguments).1).1 =
    _ ∧ Reflects _ _ _
      ((start.sift isNamed arguments).2.sift (fun _ => true) (start.sift isNamed arguments).1).2
  rw [hfirst.1, hleft]
  refine ⟨?_, hfinal.congr ?_⟩
  · rw [List.filter_filter]
    refine congrArg (List.map arguments.get) (List.filter_congr (fun place _ => ?_))
    cases (seat function.parameters arguments place).isNone with
    | true => simp
    | false => simp
  · intro place hseat
    refine iff_true_intro ?_
    cases hplace : (arguments.get place).name.isSome with
    | true => exact .inl rfl
    | false => exact .inr ⟨List.mem_filter.mpr ⟨List.mem_finRange _, by rw [hplace]; rfl⟩, rfl⟩

/-! ### Whole bindings -/

/-- An argument fits a parameter if its name, if any, is that of the parameter and its value is
accepted. -/
theorem Parameter.fits_iff {parameter : Parameter} {argument : Argument Value} :
    parameter.fits argument = true ↔
      (argument.name = none ∨ argument.name = some parameter.name) ∧
        parameter.accepts argument.value = true := by
  cases hname : argument.name with
  | none => simp [Parameter.fits, hname]
  | some name => simp [Parameter.fits, hname]

/-- A parameter accepts its own default. -/
theorem Parameter.accepts_default {parameter : Parameter} {default : Value}
    (h : parameter.missing = .substitute default) : parameter.accepts default = true := by
  have hadmitted := parameter.admitted
  rw [h] at hadmitted
  exact hadmitted

/-- The parameters that arguments take account for the bindings of a call. -/
structure Seating (function : Function) (arguments : List (Argument Value)) (bindings : Bindings)
    (assigned : Fin arguments.length → Option (Fin function.parameters.length)) : Prop where
  /-- No two arguments take the same parameter. -/
  injective : ∀ {place other slot}, assigned place = some slot → assigned other = some slot →
    place = other
  /-- A named argument takes a parameter of its name. -/
  named : ∀ {place slot}, assigned place = some slot → (arguments.get place).name = none ∨
    (arguments.get place).name = some (function.parameters.get slot).name
  /-- An argument is of the type of the parameter it takes. -/
  typed : ∀ {place slot}, assigned place = some slot →
    (function.parameters.get slot).type.typeName ∈ (arguments.get place).value.type.hierarchy
  /-- A parameter is bound to the value of the argument that takes it. -/
  bound : ∀ {place slot}, assigned place = some slot →
    bindings.get? (function.parameters.get slot).name = some (arguments.get place).value
  /-- An argument takes the first parameter that fits it and that no argument with an earlier turn
  takes; for a positional one those are the named arguments and the positional ones before it. -/
  first : ∀ place slot, assigned place = some slot ↔ FirstOpen assigned place slot
  /-- The values of the other arguments are left over, in call order. -/
  rest : bindings.rest = ((List.finRange arguments.length).filter (fun place =>
    (assigned place).isNone)).map (fun place => (arguments.get place).value)
  /-- Only a variadic function leaves anything over. -/
  nothing : function.variadic = false → bindings.rest = []
  /-- Every mandatory parameter is taken. -/
  mandatory : ∀ slot, (∀ place, assigned place ≠ some slot) →
    (function.parameters.get slot).missing ≠ .mandatory
  /-- An optional parameter that nothing takes is not bound. -/
  optional : ∀ slot, (∀ place, assigned place ≠ some slot) →
    (function.parameters.get slot).missing = .optional →
      bindings.get? (function.parameters.get slot).name = none
  /-- A parameter with a default that nothing takes is bound to the default. -/
  substitute : ∀ slot, (∀ place, assigned place ≠ some slot) →
    ∀ default, (function.parameters.get slot).missing = .substitute default →
      bindings.get? (function.parameters.get slot).name = some default
  /-- Only parameters are bound. -/
  names : ∀ name, bindings.contains name = true →
    ∃ slot, (function.parameters.get slot).name = name
  /-- Every parameter accepts what it is bound to. -/
  accepted : ∀ slot value, bindings.get? (function.parameters.get slot).name = some value →
    (function.parameters.get slot).accepts value = true

section Whole

variable {function : Function} {arguments : List (Argument Value)} {bindings : Bindings}

/-- Closing after all turns fails if a mandatory parameter is not taken, and else adds the defaults
of the parameters that are not taken. -/
theorem Reflects.close?_eq_some_iff {parameters : List Parameter} {progress : Progress}
    (distinct : (parameters.map Parameter.name).Nodup)
    (h : Reflects parameters arguments (fun _ => True) progress) (rest : List Value) :
    Slot.close? progress.slots ⟨progress.bound.named, rest⟩ = some bindings ↔
      (∀ slot, (∀ place, seat parameters arguments place ≠ some slot) →
        (parameters.get slot).missing ≠ .mandatory) ∧
      bindings.rest = rest ∧
      ∀ name value, bindings.get? name = some value ↔
        (∃ place slot, seat parameters arguments place = some slot ∧
          (parameters.get slot).name = name ∧ (arguments.get place).value = value) ∨
        ∃ slot, (∀ place, seat parameters arguments place ≠ some slot) ∧
          (parameters.get slot).name = name ∧
          (parameters.get slot).missing = .substitute value := by
  obtain ⟨taken, hslots, htaken⟩ := h.slots
  have hfree : ∀ slot, taken slot = false ↔
      ∀ place, seat parameters arguments place ≠ some slot := by
    intro slot
    simp [← Bool.not_eq_true, htaken]
  have hbound : ∀ name value,
      (⟨progress.bound.named, rest⟩ : Bindings).get? name = some value ↔
        ∃ place slot, seat parameters arguments place = some slot ∧
          (parameters.get slot).name = name ∧ (arguments.get place).value = value := by
    intro name value
    refine (h.named name value).trans ?_
    simp only [true_and]
  have hdistinct : (progress.slots.map (fun slot => slot.parameter.name)).Nodup := by
    have hparameters : progress.slots.map Slot.parameter = parameters := by
      rw [hslots, Slot.row, List.map_map]
      exact List.map_get_finRange parameters
    rw [← hparameters, List.map_map] at distinct
    exact distinct
  have hapart : ∀ slot ∈ progress.slots, slot.taken = false →
      (⟨progress.bound.named, rest⟩ : Bindings).get? slot.parameter.name = none := by
    rw [hslots]
    intro slot hmem hslot
    obtain ⟨free, -, rfl⟩ := List.mem_map.mp hmem
    rw [Option.eq_none_iff_forall_ne_some]
    intro value hvalue
    obtain ⟨place, found, hseat, hname, -⟩ := (hbound _ value).mp hvalue
    rw [slot_eq_of_name distinct hname] at hseat
    exact (hfree free).mp hslot place hseat
  rw [Slot.close?_eq_some_iff hdistinct hapart, hslots]
  simp only [Slot.row, List.mem_map, List.mem_finRange, true_and, forall_exists_index,
    forall_apply_eq_imp_iff, exists_exists_eq_and, hfree, hbound]

/-- A binding has a result unless an argument is left over that the function does not allow or a
mandatory parameter is not taken, and then the result holds what the seats say. -/
theorem Function.bind?_eq_some_iff (distinct : (function.parameters.map Parameter.name).Nodup) :
    function.bind? arguments = some bindings ↔
      (function.variadic = false →
        ∀ place, seat function.parameters arguments place ≠ none) ∧
      (∀ slot, (∀ place, seat function.parameters arguments place ≠ some slot) →
        (function.parameters.get slot).missing ≠ .mandatory) ∧
      bindings.rest = ((List.finRange arguments.length).filter (fun place =>
        (seat function.parameters arguments place).isNone)).map
          (fun place => (arguments.get place).value) ∧
      ∀ name value, bindings.get? name = some value ↔
        (∃ place slot, seat function.parameters arguments place = some slot ∧
          (function.parameters.get slot).name = name ∧ (arguments.get place).value = value) ∨
        ∃ slot, (∀ place, seat function.parameters arguments place ≠ some slot) ∧
          (function.parameters.get slot).name = name ∧
          (function.parameters.get slot).missing = .substitute value := by
  obtain ⟨hleft, hreflects⟩ := sifted_reflects distinct arguments
  have hallowed : (function.variadic || (function.sifted arguments).1.isEmpty) = true ↔
      (function.variadic = false →
        ∀ place, seat function.parameters arguments place ≠ none) := by
    cases function.variadic with
    | true => simp
    | false => simp [hleft, List.filter_eq_nil_iff]
  have hvalues : (function.sifted arguments).1.map Argument.value =
      ((List.finRange arguments.length).filter (fun place =>
        (seat function.parameters arguments place).isNone)).map
          (fun place => (arguments.get place).value) := by
    rw [hleft, List.map_map]
    rfl
  rw [Function.bind?_eq_sifted, Option.ite_none_right_eq_some, hallowed,
    hreflects.close?_eq_some_iff distinct, hvalues]

/-- The turns seat the arguments of a call that is bound. -/
theorem seating_seat (distinct : (function.parameters.map Parameter.name).Nodup)
    (h : function.bind? arguments = some bindings) :
    Seating function arguments bindings (seat function.parameters arguments) := by
  obtain ⟨hvariadic, hmandatory, hrest, hnamed⟩ := (Function.bind?_eq_some_iff distinct).mp h
  have hfits : ∀ {place slot}, seat function.parameters arguments place = some slot →
      (function.parameters.get slot).fits (arguments.get place) = true :=
    fun hseat => (seat_eq_some_iff.mp hseat).1.1
  -- what a parameter is bound to is the value of the argument that takes it or its default
  have hvalue : ∀ slot value,
      bindings.get? (function.parameters.get slot).name = some value →
        (∃ place, seat function.parameters arguments place = some slot ∧
          (arguments.get place).value = value) ∨
        (∀ place, seat function.parameters arguments place ≠ some slot) ∧
          (function.parameters.get slot).missing = .substitute value := by
    intro slot value hget
    rcases (hnamed _ value).mp hget with ⟨place, found, hseat, hname, hvalue⟩ |
      ⟨found, hfree, hname, hmissing⟩
    · rw [slot_eq_of_name distinct hname] at hseat
      exact .inl ⟨place, hseat, hvalue⟩
    · rw [slot_eq_of_name distinct hname] at hfree hmissing
      exact .inr ⟨hfree, hmissing⟩
  constructor
  case injective => exact injective_of_first (fun _ _ => seat_eq_some_iff)
  case named => exact fun hseat => (Parameter.fits_iff.mp (hfits hseat)).1
  case typed =>
    intro place slot hseat
    have haccepts := (Parameter.fits_iff.mp (hfits hseat)).2
    exact List.contains_iff_mem.mp haccepts
  case bound => exact fun hseat => (hnamed _ _).mpr (.inl ⟨_, _, hseat, rfl, rfl⟩)
  case first => exact fun _ _ => seat_eq_some_iff
  case rest => exact hrest
  case nothing =>
    intro hfixed
    have hseated := hvariadic hfixed
    simp [hrest, hseated]
  case mandatory => exact hmandatory
  case optional =>
    intro slot hfree hmissing
    rw [Option.eq_none_iff_forall_ne_some]
    intro value hget
    rcases hvalue slot value hget with ⟨place, hseat, -⟩ | ⟨-, hdefault⟩
    · exact hfree place hseat
    · rw [hmissing] at hdefault
      cases hdefault
  case substitute =>
    exact fun slot hfree default hmissing => (hnamed _ _).mpr (.inr ⟨slot, hfree, rfl, hmissing⟩)
  case names =>
    intro name hbound
    obtain ⟨value, hget⟩ := Option.isSome_iff_exists.mp hbound
    rcases (hnamed name value).mp hget with ⟨-, slot, -, hname, -⟩ | ⟨slot, -, hname, -⟩
    · exact ⟨slot, hname⟩
    · exact ⟨slot, hname⟩
  case accepted =>
    intro slot value hget
    rcases hvalue slot value hget with ⟨place, hseat, rfl⟩ | ⟨-, hdefault⟩
    · exact (Parameter.fits_iff.mp (hfits hseat)).2
    · exact Parameter.accepts_default hdefault

/-- What a seating accounts for is the result of the binding, as the rule leaves no choice. -/
theorem Seating.bind?_eq {assigned : Fin arguments.length → Option (Fin function.parameters.length)}
    (distinct : (function.parameters.map Parameter.name).Nodup)
    (seating : Seating function arguments bindings assigned) :
    function.bind? arguments = some bindings := by
  obtain rfl := eq_seat_of_first seating.first
  refine (Function.bind?_eq_some_iff distinct).mpr ⟨?_, seating.mandatory, seating.rest, ?_⟩
  · intro hfixed place hnone
    have hempty := seating.rest.symm.trans (seating.nothing hfixed)
    have hunseated := List.filter_eq_nil_iff.mp (List.map_eq_nil_iff.mp hempty) place
      (List.mem_finRange place)
    simp [hnone] at hunseated
  · intro name value
    constructor
    · intro hget
      obtain ⟨slot, rfl⟩ := seating.names name (Option.isSome_iff_exists.mpr ⟨value, hget⟩)
      by_cases hfree : ∀ place, seat function.parameters arguments place ≠ some slot
      · cases hmissing : (function.parameters.get slot).missing with
        | mandatory => exact absurd hmissing (seating.mandatory slot hfree)
        | optional =>
          rw [seating.optional slot hfree hmissing] at hget
          cases hget
        | substitute default =>
          rw [seating.substitute slot hfree default hmissing] at hget
          obtain rfl := Option.some.inj hget
          exact .inr ⟨slot, hfree, rfl, hmissing⟩
      · obtain ⟨place, hseat⟩ := not_forall_not.mp hfree
        have hvalue := Option.some.inj ((seating.bound hseat).symm.trans hget)
        exact .inl ⟨place, slot, hseat, rfl, hvalue⟩
    · rintro (⟨place, slot, hseat, rfl, rfl⟩ | ⟨slot, hfree, rfl, hmissing⟩)
      · exact seating.bound hseat
      · exact seating.substitute slot hfree value hmissing

/-- A binding succeeds with certain bindings if and only if there is a seating of the arguments that
accounts for them. -/
theorem Function.bind?_eq_some_iff_seating
    (distinct : (function.parameters.map Parameter.name).Nodup) :
    function.bind? arguments = some bindings ↔
      ∃ assigned, Seating function arguments bindings assigned :=
  ⟨fun h => ⟨_, seating_seat distinct h⟩, fun ⟨_, seating⟩ => seating.bind?_eq distinct⟩

end Whole

/-- A variadic function with parameters of all kinds. -/
def medley : Function :=
  ⟨0, "f",
    [.mandatory "a" (.declared .int), ⟨"b", .lateBound "Number", .substitute (.int 7), rfl⟩,
      .optional "c" (.declared .string), .optional "d" (.declared .object)],
    true, .native (fun _ => .done .empty)⟩

/-- The string skips two parameters, the named argument of the wrong type is left over in its place,
and the truth value finds the only parameter that fits it taken. -/
theorem bind?_eq_some_iff_seating_medley :
    let arguments := [.positional (.string "x"), .named "d" (.int 3), .positional (.int 1),
      .named "a" (.string "y"), .positional (.boolean true)]
    let bindings : Bindings := ⟨Table.ofList
      [("a", .int 1), ("b", .int 7), ("c", .string "x"), ("d", .int 3)],
      [.string "y", .boolean true]⟩
    (medley.parameters.map Parameter.name).Nodup ∧ medley.bind? arguments = some bindings ∧
      ∃ assigned, Seating medley arguments bindings assigned := by
  intro arguments bindings
  have hdistinct : (medley.parameters.map Parameter.name).Nodup := by decide
  have hbind : medley.bind? arguments = some bindings := by rfl
  exact ⟨hdistinct, hbind, (Function.bind?_eq_some_iff_seating hdistinct).mp hbind⟩

end GuardedScript

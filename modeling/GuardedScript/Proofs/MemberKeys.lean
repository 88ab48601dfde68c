import GuardedScript.Member
import GuardedScript.Proofs.Effects
import GuardedScript.ValueType

/-!
# Keys of members do not collide

The name that a member is registered under is read back from the front.  It begins with the word of
the kind, which ends at the first underscore, and goes on with the name of the type, which ends at
the next one if it has none itself; all that is left is the name of the member.  So a member may be
called anything that has no blanks: even a name that imitates the beginning of another key leads to
no other member (`key_text_eq_iff_of_plain`).

Names of types with underscores are told apart only together with the member
(`key_text_eq_iff`).
-/

set_option autoImplicit false

namespace GuardedScript

/-- The first underscore divides a list of characters in one way. -/
theorem Text.append_cons_inj {word other rest otherRest : List Char} (hword : '_' ∉ word)
    (hother : '_' ∉ other) :
    word ++ '_' :: rest = other ++ '_' :: otherRest ↔ word = other ∧ rest = otherRest := by
  constructor
  · intro h
    induction word generalizing other with
    | nil =>
      cases other with
      | nil => exact ⟨rfl, (List.cons.inj h).2⟩
      | cons c other =>
        obtain ⟨rfl, -⟩ := List.cons.inj h
        exact absurd List.mem_cons_self hother
    | cons c word ih =>
      cases other with
      | nil =>
        obtain ⟨rfl, -⟩ := List.cons.inj h
        exact absurd List.mem_cons_self hword
      | cons d other =>
        obtain ⟨rfl, htail⟩ := List.cons.inj h
        obtain ⟨rfl, hrest⟩ := ih (List.not_mem_of_not_mem_cons hword)
          (List.not_mem_of_not_mem_cons hother) htail
        exact ⟨rfl, hrest⟩
  · rintro ⟨rfl, rfl⟩
    rfl

/-- Words without the mark before it are read off a text up to the first mark. -/
theorem Text.append_mark_inj {word other rest otherRest : String} (hword : '_' ∉ word.toList)
    (hother : '_' ∉ other.toList) :
    word ++ "_" ++ rest = other ++ "_" ++ otherRest ↔ word = other ∧ rest = otherRest := by
  have hchars : word.toList ++ '_' :: rest.toList = other.toList ++ '_' :: otherRest.toList ↔
      word.toList = other.toList ∧ rest.toList = otherRest.toList := append_cons_inj hword hother
  rw [String.toList_inj, String.toList_inj] at hchars
  rw [← hchars, ← String.toList_inj]
  simp

/-- The stem of a kind is plain. -/
theorem MemberKind.plain_stem (kind : MemberKind) : Text.Plain kind.stem := by
  cases kind <;> decide +kernel

/-- The stem of a kind tells the kind. -/
theorem MemberKind.stem_injective {kind other : MemberKind} (h : kind.stem = other.stem) :
    kind = other := by
  revert h
  cases kind <;> cases other <;> decide

/-- Members whose type and whose own name have no blanks. -/
structure MemberKey.Blankless (key : MemberKey) : Prop where
  typeName : Text.Blankless key.typeName
  member : Text.Blankless key.member

instance (key : MemberKey) : Decidable key.Blankless :=
  decidable_of_iff (Text.Blankless key.typeName ∧ Text.Blankless key.member)
    ⟨fun h => ⟨h.1, h.2⟩, fun h => ⟨h.typeName, h.member⟩⟩

namespace MemberKey

variable {first second : MemberKey}

/-- The text of a key is its parts with marks in between. -/
theorem text_eq (key : MemberKey) :
    key.text = key.kind.stem ++ "_" ++ (key.typeName ++ "_" ++ key.member) := by
  simp only [text, String.append_assoc]

/-- Keys are the same if all their parts are. -/
theorem eq_iff :
    first = second ↔ first.kind = second.kind ∧ first.typeName = second.typeName ∧
      first.member = second.member := by
  cases first
  cases second
  simp only [MemberKey.mk.injEq]

/-- The name that a member without blanks is registered under is its own key. -/
theorem Blankless.key_text (h : first.Blankless) : Text.key first.text = first.text := by
  have hmark : Text.Blankless "_" := by decide +kernel
  exact Text.Blankless.key_eq
    ((((first.kind.plain_stem.blankless.append hmark).append h.typeName).append hmark).append
      h.member)

/-- The kind of a member is read off its key, and so is what stands behind it. -/
theorem key_text_eq_iff (hfirst : first.Blankless) (hsecond : second.Blankless) :
    Text.key first.text = Text.key second.text ↔
      first.kind = second.kind ∧
        first.typeName ++ "_" ++ first.member = second.typeName ++ "_" ++ second.member := by
  rw [hfirst.key_text, hsecond.key_text, text_eq, text_eq,
    Text.append_mark_inj first.kind.plain_stem.unmarked second.kind.plain_stem.unmarked]
  exact and_congr_left (fun _ => ⟨MemberKind.stem_injective, congrArg MemberKind.stem⟩)

/-- If the types have no underscores, then they are read off the keys as well, and all that is left
are the names of the members. -/
theorem key_text_eq_iff_of_plain (hfirst : first.Blankless) (hsecond : second.Blankless)
    (unmarked : '_' ∉ first.typeName.toList) (unmarked' : '_' ∉ second.typeName.toList) :
    Text.key first.text = Text.key second.text ↔ first = second := by
  rw [key_text_eq_iff hfirst hsecond, Text.append_mark_inj unmarked unmarked', eq_iff]

/-- The names of the types that the library itself knows have neither blanks nor underscores. -/
theorem plain_of_mem_builtins :
    ∀ type ∈ ValueType.builtins, ∀ typeName ∈ type.hierarchy, Text.Plain typeName := by
  decide +kernel

/-- Keys of members do not collide.  Two members whose types and names have no blanks have the same
key exactly if they are of one kind and the types and names, with an underscore between, are
together the same text.  If the types have no underscores either, as those have not that the library
knows, then the keys are the same only for the same member; so registering a function for one
member changes in no context what is registered for another. -/
theorem uniquely_keyed (first second : MemberKey) (hfirst : first.Blankless)
    (hsecond : second.Blankless) :
    (Text.key first.text = Text.key second.text ↔
        first.kind = second.kind ∧
          first.typeName ++ "_" ++ first.member = second.typeName ++ "_" ++ second.member) ∧
      ('_' ∉ first.typeName.toList → '_' ∉ second.typeName.toList →
        (Text.key first.text = Text.key second.text ↔ first = second) ∧
        (first ≠ second → ∀ (context : Context) (function : Function) (global : Bool)
          (state : State) (id : Nat),
          ((context.register first.text function global state).2.store.registry id).overloads
              (Text.key second.text) =
            (state.store.registry id).overloads (Text.key second.text))) ∧
      ∀ type ∈ ValueType.builtins, ∀ typeName ∈ type.hierarchy, Text.Plain typeName := by
  refine ⟨key_text_eq_iff hfirst hsecond, ?_, plain_of_mem_builtins⟩
  intro unmarked unmarked'
  have hkeys := key_text_eq_iff_of_plain hfirst hsecond unmarked unmarked'
  refine ⟨hkeys, fun hother context function global state id => ?_⟩
  have hdifferent : Text.key first.text ≠ Text.key second.text := mt hkeys.mp hother
  exact (Context.register_kept hdifferent function global state).overloads id

/-- A member whose name imitates the key of another is told from that one, and from a member of
another kind, but not from a member of a type with an underscore. -/
theorem uniquely_keyed_imitating :
    let imitating : MemberKey := ⟨.function, "Int", "MemberFunction_Number_abs"⟩
    Text.key imitating.text ≠ Text.key (MemberKey.text ⟨.function, "Number", "abs"⟩) ∧
      Text.key imitating.text ≠
        Text.key (MemberKey.text ⟨.property, "Int", "MemberFunction_Number_abs"⟩) ∧
      Text.key imitating.text =
        Text.key (MemberKey.text ⟨.function, "Int_MemberFunction", "Number_abs"⟩) := by
  intro imitating
  have blankless : imitating.Blankless := by decide +kernel
  obtain ⟨-, hname, -⟩ := uniquely_keyed imitating ⟨.function, "Number", "abs"⟩ blankless
    (by decide +kernel)
  obtain ⟨-, hkind, -⟩ := uniquely_keyed imitating
    ⟨.property, "Int", "MemberFunction_Number_abs"⟩ blankless (by decide +kernel)
  obtain ⟨hcollides, -⟩ := uniquely_keyed imitating
    ⟨.function, "Int_MemberFunction", "Number_abs"⟩ blankless (by decide +kernel)
  refine ⟨?_, ?_, hcollides.mpr ⟨rfl, by decide +kernel⟩⟩
  · exact mt (hname (by decide +kernel) (by decide +kernel)).1.mp (by decide)
  · exact mt (hkind (by decide +kernel) (by decide +kernel)).1.mp (by decide)

end MemberKey

end GuardedScript

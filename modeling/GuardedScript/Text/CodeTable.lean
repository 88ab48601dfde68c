/-!
# Tables of characters

A class of characters is given by ranges of code points.  The ranges of a table ascend, so a look-up
ends at the first range above the character; `contains_iff` says that it still sees every range.
-/

set_option autoImplicit false

namespace GuardedScript.Text

/-- Whether inclusive ranges are not empty, do not overlap, and stand in increasing order at or
above a code point. -/
def ascendFrom : Nat → List (Nat × Nat) → Bool
  | _, [] => true
  | low, range :: rest =>
    low ≤ range.1 && range.1 ≤ range.2 && ascendFrom (range.2 + 1) rest

/-- Whether a code point is in one of the ranges, which ascend. -/
def findCode (code : Nat) : List (Nat × Nat) → Bool
  | [] => false
  | range :: rest => range.1 ≤ code && (code ≤ range.2 || findCode code rest)

/-- A class of characters: inclusive ranges of code points in increasing order. -/
structure CodeTable where
  ranges : List (Nat × Nat)
  ascend : ascendFrom 0 ranges = true := by decide +kernel

/-- Ranges that ascend from a code point begin at or above it. -/
theorem le_of_mem_of_ascendFrom {low : Nat} {ranges : List (Nat × Nat)}
    (h : ascendFrom low ranges = true) {range : Nat × Nat} (mem : range ∈ ranges) :
    low ≤ range.1 := by
  induction ranges generalizing low with
  | nil => cases mem
  | cons head rest ih =>
    simp only [ascendFrom, Bool.and_eq_true, decide_eq_true_eq] at h
    obtain ⟨⟨low_le, le⟩, tail⟩ := h
    cases mem with
    | head => exact low_le
    | tail _ mem => have := ih tail mem; omega

/-- The search among ascending ranges finds a code point in whichever range it is. -/
theorem findCode_iff {code low : Nat} {ranges : List (Nat × Nat)}
    (h : ascendFrom low ranges = true) :
    findCode code ranges = true ↔ ∃ range ∈ ranges, range.1 ≤ code ∧ code ≤ range.2 := by
  induction ranges generalizing low with
  | nil => simp [findCode]
  | cons head rest ih =>
    simp only [ascendFrom, Bool.and_eq_true, decide_eq_true_eq] at h
    obtain ⟨⟨-, le⟩, tail⟩ := h
    have above : ∀ range ∈ rest, head.2 + 1 ≤ range.1 :=
      fun _ mem => le_of_mem_of_ascendFrom tail mem
    simp only [findCode, Bool.and_eq_true, Bool.or_eq_true, decide_eq_true_eq, ih tail,
      List.mem_cons, exists_eq_or_imp]
    constructor
    · rintro ⟨first, last | found⟩
      · exact Or.inl ⟨first, last⟩
      · exact Or.inr found
    · rintro (⟨first, last⟩ | ⟨range, mem, first, last⟩)
      · exact ⟨first, Or.inl last⟩
      · have := above range mem
        exact ⟨by omega, Or.inr ⟨range, mem, first, last⟩⟩

/-- Whether a character is in the class. -/
def CodeTable.contains (table : CodeTable) (c : Char) : Bool :=
  findCode c.toNat table.ranges

/-- A character is in the class exactly if one of the ranges holds its code point. -/
theorem CodeTable.contains_iff (table : CodeTable) (c : Char) :
    table.contains c = true ↔
      ∃ range ∈ table.ranges, range.1 ≤ c.toNat ∧ c.toNat ≤ range.2 :=
  findCode_iff table.ascend

end GuardedScript.Text
